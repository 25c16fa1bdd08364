import PackageRegistry.Text.Integer
import PackageRegistry.Text.CaseMap
import PackageRegistry.Text.Word
import PackageRegistry.Text.Packed
/-!
# Terminal colors

A color is a name, `default`, `#rrggbb`, `color(n)` or `rgb(r,g,b)`. Output has sixteen colors:
others become the nearest standard one by an eye-weighted distance, ties to the lower.
-/

namespace PackageRegistry.Console

open PackageRegistry.Text

/-- A color of a style. -/
inductive Color where
  /-- The terminal's own color. -/
  | default
  /-- One of the sixteen standard colors. -/
  | standard (n : Nat)
  /-- A color of the 256-color palette, from 16 on. -/
  | palette (n : Nat)
  /-- A color given by its red, green and blue components. -/
  | trueColor (r g b : Nat)
  deriving Repr, BEq, DecidableEq

/-- The color names with their numbers in the 256-color palette, kept packed. -/
def colorNameTable : List (String × Nat) :=
  (words (unpack 3274 [
    "]h|c-vnTVK7K]>E1wr0v_3q~;w^bYwa;ah7,)Z4&;p%rgph.r/9>?rvH-xZs^ms 0G>sgDYX|?r!(]@F(D!ly?<be+=)",
    "Z41HgR$NJiDTbaTD(Tg+T@9fM`zj*mjYs|(Fch#XEJAylg+S_Gz!/*jPerK8.z4O.>PQ+CuGlZ-IaX`MaG*d$:QM0FAo",
    "jB&G;DUU/q;y!YkvEJ.wa4g|fk9^uzv#(>^p22/Ka<cv*;<O$Mez^Gg53[H$WxN-T@trtQp%DknvNKQ*VuTjgcLuZ&o@",
    "pcww LxxHaCKB=k:#=frVg_q6LFaw@mqy_a;V8Dz_$:3M`Xf?eY0FM@H8UP&>$J`*<.'7,.iYLk1:ejW%4Vo/?[zj<Oj",
    "CnL.;zf^(g=b12^apbtWhfq??pS+.feFFa,2jhxD%1Nkm7b]W2bS.WJmldDmf2i:8M14% /f$u4Dgq%>5fF=M?Ci8QVD",
    "'U]B*O>?7^;5Q4r7yoS+>1A+0S/z+4_y^Q0~8xDq1Q3m;_M<>65>ZRrkzE)8HlmXRGP-y# <a5gjSr7[[||Wku&XXnf?",
    " &uXn;0DD_ HkqjL7&h0>&6|Ll[*WN.k$_!|+wsjN5upV_zS$)=mipAXH%#XXk*TAxoB[:P2p4?%RS7?-#PU6naq`4#b",
    "HUZCD@y?XOz~/AH)Go8]u|P=@qwP@5 <LSDW[o3so/%7!GIpOzVhHaUh5_t5_rGJ3HdNGXpE De+H24qC1g#$&W:Z ;s",
    "$'5 iq.ui;sbkWy.7(?8[p*)#qU:z5gYagSpFB`rSsh;Q~k02=R5%:[TXm]2g,C?1@!,7o|9?_ S`XRC7n,bFEpbJk6Q",
    "yN&4h4gFg%1$gQ<]m<p7'MaFnQa_gCx7;xSp5QP;.2:9`J$gqrA7zt3~NjI`[L5ruy^|K8m7uAfaXpXM'w3V+*I .pBP",
    "*+UpVvZ1*c_yk*'$!O^5IL`nyK@6Ff'|y&q3N7juJP#o;ctaO o/W>6N9&iOMF6.HT7Rw@<'9K)K8uFe.Y)2!g(3,g|^",
    "Fz?l)5/.8LJ2@M%@YV=v^rXr@NzE2= OgmW0U|Hg|~%;Zv'W&=TWKzTI_Nf$ jXJ%:<m.7/>wP$r,d$)u;iVH(Yqy*2/",
    "V'>Ee:f|'Y_6DiZg^I|!9~B$NJm~Nf6[mI1RVODIb|~!|w"])).filterMap fun w =>
    match w.splitOn "=" with
    | [name, n] => (n.toNat?).map fun v => (name, v)
    | _ => none

/-- The color a number of the 256-color palette stands for. -/
def Color.ofNumber (n : Nat) : Color :=
  if n < 16 then .standard n else .palette n

def colorNumber? (name : String) : Option Nat :=
  (colorNameTable.find? (·.1 == name)).map (·.2)

/-- Whether a character is a lowercase hexadecimal digit. -/
def isLowerHexDigit (c : Char) : Bool := ('0' ≤ c && c ≤ '9') || ('a' ≤ c && c ≤ 'f')

/-- The value of a lowercase hexadecimal digit. -/
def lowerHexValue (c : Char) : Nat :=
  if c ≤ '9' then c.toNat - '0'.toNat else c.toNat - 'a'.toNat + 10

/-- Why a color does not read. -/
inductive ColorFault where
  /-- The word is not a color. -/
  | unreadable
  /-- A component of `rgb(…)` is not an integer: the message of the fault. -/
  | notInteger (message : String)
  deriving Repr, BEq

/-- Reads a color. -/
def readColor (word : String) : Except ColorFault Color :=
  let color := trim (toLower word)
  let cs := color.toList
  if color == "default" then .ok .default
  else match colorNumber? color with
  | some n => .ok (Color.ofNumber n)
  | none =>
    match cs with
    | '#' :: rest =>
      if rest.length == 6 && rest.all isLowerHexDigit then
        let v := fun (i : Nat) =>
          lowerHexValue (rest.getD i '0') * 16 + lowerHexValue (rest.getD (i + 1) '0')
        .ok (.trueColor (v 0) (v 2) (v 4))
      else .error .unreadable
    | _ =>
      if color.startsWith "color(" && color.endsWith ")" then
        let ds := (cs.drop 6).dropLast
        let n := ds.foldl (fun acc d => acc * 10 + (d.toNat - 48)) 0
        if 1 ≤ ds.length && ds.length ≤ 3 && ds.all isAsciiDigit && n ≤ 255 then
          .ok (Color.ofNumber n)
        else .error .unreadable
      else if color.startsWith "rgb(" && color.endsWith ")" then
        let inner := (cs.drop 4).dropLast
        if inner.isEmpty || !inner.all (fun c => isDecimalDigit c || isBlank c || c == ',') then
          .error .unreadable
        else
          let parts := inner.splitOn ','
          if parts.length != 3 then .error .unreadable
          else do
            let values ← parts.mapM fun p =>
              (readInteger (String.ofList p)).mapError fun e => ColorFault.notInteger e.message
            match values with
            | [r, g, b] =>
              if values.all (· ≤ 255) then .ok (.trueColor r.toNat g.toNat b.toNat)
              else .error .unreadable
            | _ => .error .unreadable
      else .error .unreadable

/-! ## Bringing colors down -/

/-- The red, green and blue components of the sixteen standard colors. -/
def standardPalette : List (Nat × Nat × Nat) :=
  [(0, 0, 0), (170, 0, 0), (0, 170, 0), (170, 85, 0), (0, 0, 170), (170, 0, 170), (0, 170, 170),
   (170, 170, 170), (85, 85, 85), (255, 85, 85), (85, 255, 85), (255, 255, 85), (85, 85, 255),
   (255, 85, 255), (85, 255, 255), (255, 255, 255)]

/-- The components of the first sixteen colors of the 256-color palette. -/
def paletteBase : List (Nat × Nat × Nat) :=
  [(0, 0, 0), (128, 0, 0), (0, 128, 0), (128, 128, 0), (0, 0, 128), (128, 0, 128), (0, 128, 128),
   (192, 192, 192), (128, 128, 128), (255, 0, 0), (0, 255, 0), (255, 255, 0), (0, 0, 255),
   (255, 0, 255), (0, 255, 255), (255, 255, 255)]

/-- The six levels of a component in the color cube of the 256-color palette. -/
def cubeLevel (i : Nat) : Nat := [0, 95, 135, 175, 215, 255].getD i 255

/-- The components of a color of the 256-color palette: the sixteen base colors, a 6×6×6 cube,
then 24 grays. -/
def paletteComponents (n : Nat) : Nat × Nat × Nat :=
  if n < 16 then paletteBase.getD n (0, 0, 0)
  else if n < 232 then
    let i := n - 16
    (cubeLevel (i / 36), cubeLevel (i / 6 % 6), cubeLevel (i % 6))
  else
    let v := 8 + 10 * (n - 232)
    (v, v, v)

/-- The squared weighted distance between two colors. -/
def colorDistance (a b : Nat × Nat × Nat) : Nat :=
  let (r1, g1, b1) := a
  let (r2, g2, b2) := b
  let redMean := (r1 + r2) / 2
  let dr := (Int.ofNat r1 - Int.ofNat r2).natAbs
  let dg := (Int.ofNat g1 - Int.ofNat g2).natAbs
  let db := (Int.ofNat b1 - Int.ofNat b2).natAbs
  (512 + redMean) * dr * dr / 256 + 4 * dg * dg + (767 - redMean) * db * db / 256

/-- The standard color nearest to the given components, the lower number on a tie. -/
def nearestStandard (c : Nat × Nat × Nat) : Nat :=
  let scored := (standardPalette.zipIdx).map fun (p, i) => (colorDistance c p, i)
  (scored.foldl (fun (best : Nat × Nat) (d, i) => if d < best.1 then (d, i) else best)
    (scored.headD (0, 0))).2

def Color.toStandard : Color → Color
  | .default => .default
  | .standard n => .standard n
  | .palette n => .standard (nearestStandard (paletteComponents n))
  | .trueColor r g b => .standard (nearestStandard (r, g, b))

/-- The code of a color brought down to the standard colors, for the foreground or the
background. -/
def Color.code (c : Color) (foreground : Bool) : String :=
  match c.toStandard with
  | .standard n =>
    toString (if n < 8 then (if foreground then 30 else 40) + n else (if foreground then 82 else 92) + n)
  | _ => if foreground then "39" else "49"

end PackageRegistry.Console
