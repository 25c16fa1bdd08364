import Mathlib
import PackageRegistry.Proofs.Text.Codecs
import PackageRegistry.Cli.Commands
/-!
# Authorization headers

What the parser makes of an `Authorization` header, and what `whoami` answers. `Basic` with the
padded base64 of a text's UTF-8 octets gives the text split at its first colon
(`parseAuthorization_basic_encoding`); `parseAuthorization_eq_error_iff` says when a header is
refused. `whoami` answers a refusal with status 1, but crashes on a Basic value outside ASCII.
-/

namespace PackageRegistry.Auth

open PackageRegistry.Text PackageRegistry.Digest PackageRegistry.Search

/-! ## The first colon -/

/-- Credentials without a colon are a username with an empty password. -/
theorem splitUserPassword_of_colon_free {s : String} (h : ':' ∉ s.toList) :
    splitUserPassword s = .basic s "" := by
  have hall : ∀ c ∈ s.toList, decide (c ≠ ':') = true := fun c hc =>
    decide_eq_true fun hc' => h (hc' ▸ hc)
  unfold splitUserPassword
  dsimp only
  rw [List.takeWhile_eq_self_iff.mpr hall, List.dropWhile_eq_nil_iff.mpr hall]
  simp

/-- Credentials split at their first colon into username and password. -/
theorem splitUserPassword_append {u p : String} (h : ':' ∉ u.toList) :
    splitUserPassword (u ++ ":" ++ p) = .basic u p := by
  have hall : ∀ c ∈ u.toList, decide (c ≠ ':') = true := fun c hc =>
    decide_eq_true fun hc' => h (hc' ▸ hc)
  have hcs : (u ++ ":" ++ p).toList = u.toList ++ ':' :: p.toList := by simp
  unfold splitUserPassword
  dsimp only
  rw [hcs, List.takeWhile_append_of_pos hall, List.dropWhile_append_of_pos hall]
  simp

/-- Text with a colon is its part before the first colon, the colon, and the rest. -/
theorem exists_eq_colon_append {s : String} (h : ':' ∈ s.toList) :
    ∃ u p, ':' ∉ u.toList ∧ s = u ++ ":" ++ p := by
  refine ⟨String.ofList (s.toList.takeWhile (· ≠ ':')),
    String.ofList ((s.toList.dropWhile (· ≠ ':')).drop 1), ?_, ?_⟩
  · intro hu
    rw [String.toList_ofList] at hu
    exact absurd rfl
      (of_decide_eq_true (List.mem_takeWhile_imp (p := fun x => decide (x ≠ ':')) hu))
  · -- what is left after the part before the colon starts with the colon
    obtain ⟨c, rest, hd⟩ : ∃ c rest, s.toList.dropWhile (· ≠ ':') = c :: rest := by
      cases hdw : s.toList.dropWhile (· ≠ ':') with
      | nil => exact absurd (List.dropWhile_eq_nil_iff.mp hdw ':' h) (by simp)
      | cons c rest => exact ⟨c, rest, rfl⟩
    have hc : c = ':' := by
      have := List.head?_dropWhile_not (fun x => decide (x ≠ ':')) s.toList
      rw [hd] at this
      simpa using this
    subst hc
    have hcolon : ":".toList = [':'] := rfl
    rw [← String.toList_inj]
    simp only [String.toList_append, String.toList_ofList, hd, hcolon, List.drop_one,
      List.tail_cons, List.append_assoc, List.singleton_append]
    rw [← hd, List.takeWhile_append_dropWhile]

/-! ## Basic credentials -/

/-- A Basic value that is the base64 of text's UTF-8 octets decodes to the text split at its
first colon. -/
theorem parseBasic_base64Encode {s : String} {bytes : List UInt8} (hs : encodeUtf8 s = .ok bytes) :
    parseBasic (base64Encode bytes) = .ok (splitUserPassword s) := by
  obtain ⟨-, rfl⟩ := encodeUtf8_eq_ok_iff.mp hs
  have hascii : (base64Encode (utf8Bytes s)).toList.all (·.toNat < 0x80) = true :=
    List.all_eq_true.mpr fun c hc => decide_eq_true (base64Encode_ascii _ c hc)
  simp [parseBasic, hascii, base64Decode_base64Encode, decodeUtf8_utf8Bytes]

/-- The stored form of a secret with a UTF-8 encoding is the digest of its octets. -/
theorem secretHash_eq {p : String} (h : ∀ c ∈ p.toList, isStandIn c = false) :
    secretHash p = .ok (sha256Hex (utf8Bytes p)) := by
  rw [secretHash, encodeUtf8_eq_ok_iff.mpr ⟨h, rfl⟩]
  rfl

/-- A username and password without stand-ins are looked up by both. -/
theorem clause_basic {u p : String} (h : ∀ c ∈ p.toList, isStandIn c = false) :
    (Credentials.basic u p).clause =
      .ok { fragment := "username = ? and password = ?",
            params := [u, sha256Hex (utf8Bytes p)] } := by
  simp only [Credentials.clause, secretHash_eq h, Except.mapError]
  rfl

/-- A header `Basic` with the base64 of a text's UTF-8 octets gives the text split at its first
colon (an empty password without one), so a colon-free user name and any password come back. -/
theorem parseAuthorization_basic_encoding {s : String} {bytes : List UInt8}
    (hs : encodeUtf8 s = .ok bytes) {header : String} {more : List String}
    (hw : words header = "Basic" :: base64Encode bytes :: more) :
    ∃ u p, parseAuthorization header = .ok (.basic u p) ∧
      (':' ∉ s.toList ∧ u = s ∧ p = "" ∨ ':' ∉ u.toList ∧ s = u ++ ":" ++ p) ∧
      (∀ u' p', ':' ∉ u'.toList → s = u' ++ ":" ++ p' → u' = u ∧ p' = p) ∧
      (Credentials.basic u p).clause =
        .ok { fragment := "username = ? and password = ?",
              params := [u, sha256Hex (utf8Bytes p)] } := by
  have hparse : parseAuthorization header = .ok (splitUserPassword s) := by
    simp [parseAuthorization, hw, parseBasic_base64Encode hs]
  have hfree : ∀ c ∈ s.toList, isStandIn c = false := (encodeUtf8_eq_ok_iff.mp hs).1
  -- the split is unique: it is what `splitUserPassword` gives
  have hunique : ∀ u p, splitUserPassword s = .basic u p →
      ∀ u' p', ':' ∉ u'.toList → s = u' ++ ":" ++ p' → u' = u ∧ p' = p := by
    intro u p hsplit u' p' hu' hs'
    rw [hs', splitUserPassword_append hu', Credentials.basic.injEq] at hsplit
    exact hsplit
  by_cases hcolon : ':' ∈ s.toList
  · obtain ⟨u, p, hu, rfl⟩ := exists_eq_colon_append hcolon
    have hsplit := splitUserPassword_append (p := p) hu
    refine ⟨u, p, hparse.trans (by rw [hsplit]), .inr ⟨hu, rfl⟩, hunique u p hsplit,
      clause_basic fun c hc => hfree c (by simp [hc])⟩
  · have hsplit := splitUserPassword_of_colon_free hcolon
    refine ⟨s, "", hparse.trans (by rw [hsplit]), .inl ⟨hcolon, rfl, rfl⟩,
      hunique s "" hsplit, clause_basic (by simp)⟩

/-- `Basic em/Dqzpww6Q6c3M=` carries `zoë:pä:ss`: the user `zoë` with the password `pä:ss`. -/
theorem parseAuthorization_basic_zoe :
    encodeUtf8 "zoë:pä:ss" = .ok (utf8Bytes "zoë:pä:ss") ∧
    words "Basic em/Dqzpww6Q6c3M=" = ["Basic", base64Encode (utf8Bytes "zoë:pä:ss")] ∧
    parseAuthorization "Basic em/Dqzpww6Q6c3M=" = .ok (.basic "zoë" "pä:ss") := by
  have hw : words "Basic em/Dqzpww6Q6c3M=" = ["Basic", base64Encode (utf8Bytes "zoë:pä:ss")] := by
    decide +kernel
  obtain ⟨u, p, hparse, -, hunique, -⟩ :=
    parseAuthorization_basic_encoding (s := "zoë:pä:ss") rfl hw
  obtain ⟨rfl, rfl⟩ := hunique "zoë" "pä:ss" (by simp) (by decide +kernel)
  exact ⟨rfl, hw, hparse⟩

/-! ## Refused headers -/

/-- Why Basic credentials are refused: a character outside ASCII, not strict base64, or octets
that are not UTF-8. -/
inductive BasicRefusal (value : String) : AuthError → Prop
  | nonAscii : (∃ c ∈ value.toList, 0x80 ≤ c.toNat) → BasicRefusal value .nonAsciiValue
  | notBase64 {f : Base64Error} : (∀ c ∈ value.toList, c.toNat < 0x80) →
      base64Decode value = .error f → BasicRefusal value (.badBasicValue f.message)
  | notUtf8 {bs : List UInt8} {f : Utf8Error} : (∀ c ∈ value.toList, c.toNat < 0x80) →
      base64Decode value = .ok bs → decodeUtf8 bs = .error f →
      BasicRefusal value (.badBasicValue f.message)

/-- Reading basic credentials fails exactly as `BasicRefusal` states. -/
theorem parseBasic_eq_error_iff {value : String} {e : AuthError} :
    parseBasic value = .error e ↔ BasicRefusal value e := by
  unfold parseBasic
  by_cases hascii : ∀ c ∈ value.toList, c.toNat < 0x80
  · have hall : value.toList.all (·.toNat < 0x80) = true :=
      List.all_eq_true.mpr fun c hc => decide_eq_true (hascii c hc)
    simp only [hall, Bool.not_true, Bool.false_eq_true, if_false]
    constructor
    · intro h
      split at h
      · next f hf => cases h; exact .notBase64 hascii hf
      · next bs hbs =>
        split at h
        · next f hf => cases h; exact .notUtf8 hascii hbs hf
        · cases h
    · rintro (⟨c, hc, hlarge⟩ | ⟨_, hf⟩ | ⟨_, hbs, hf⟩)
      · exact absurd (hascii c hc) (by omega)
      · simp [hf]
      · simp [hbs, hf]
  · have hall : value.toList.all (·.toNat < 0x80) = false := by
      simpa using hascii
    simp only [hall, Bool.not_false, if_true, Except.error.injEq]
    constructor
    · rintro rfl
      exact .nonAscii (by simpa using hascii)
    · rintro (_ | ⟨h, _⟩ | ⟨h, _⟩)
      · rfl
      all_goals exact absurd h hascii

/-- A header is refused exactly when it has fewer than two items, or its scheme is `Basic` and
its value is refused. -/
theorem parseAuthorization_eq_error_iff {header : String} {e : AuthError} :
    parseAuthorization header = .error e ↔
      (words header).length < 2 ∧ e = .malformedHeader ∨
        ∃ value more, words header = "Basic" :: value :: more ∧ BasicRefusal value e := by
  unfold parseAuthorization
  split
  · next scheme value more hw =>
    simp only [hw, List.length_cons, List.cons.injEq]
    by_cases hb : scheme = "Basic"
    · subst hb
      simp [parseBasic_eq_error_iff]
    · by_cases hk : scheme = "APIKey" <;> simp [hb, hk]
  · next hw =>
    have hshort : (words header).length < 2 := by
      match h : words header with
      | [] | [_] => simp
      | _ :: _ :: _ => exact absurd h (hw _ _ _)
    have hnone :
        ¬ ∃ value more, words header = "Basic" :: value :: more ∧ BasicRefusal value e :=
      fun ⟨value, more, h, _⟩ => hw _ _ _ h
    simp only [hshort, true_and, Except.error.injEq, or_iff_left hnone]
    exact eq_comm

/-- A refused header is malformed, or its Basic value is not base64 of UTF-8 text, or not
ASCII. -/
theorem refusal_cases {header : String} {e : AuthError}
    (h : parseAuthorization header = .error e) :
    e = .malformedHeader ∨ (∃ reason, e = .badBasicValue reason) ∨ e = .nonAsciiValue := by
  rcases parseAuthorization_eq_error_iff.mp h with ⟨-, rfl⟩ | ⟨value, more, -, hv⟩
  · exact .inl rfl
  · cases hv with
    | nonAscii => exact .inr (.inr rfl)
    | notBase64 => exact .inr (.inl ⟨_, rfl⟩)
    | notUtf8 => exact .inr (.inl ⟨_, rfl⟩)

end PackageRegistry.Auth

namespace PackageRegistry.Store

open PackageRegistry.Auth

/-- A refused header is a refusal of the registry's lookup, before any query. -/
theorem Registry.authenticate_of_refused (reg : Registry) {header : String} {e : AuthError}
    (h : parseAuthorization header = .error e) :
    reg.authenticate header = .error (.credentials e) := by
  unfold Registry.authenticate
  rw [h]
  rfl

end PackageRegistry.Store

namespace PackageRegistry.Cli

open PackageRegistry.Store PackageRegistry.Auth PackageRegistry.Text PackageRegistry.Config

/-- `whoami` on a refused header, the database open: a non-ASCII Basic value crashes it, other
refusals give `Invalid auth data: …`, status 1. -/
theorem runWhoami_refused (s : Session) {r : Reading} {e : AuthError}
    (h : parseAuthorization ((r.text? "header").getD "") = .error e) :
    runWhoami s r = (s.openRegistry >>= fun _ =>
      if e = .nonAsciiValue then crash "ValueError" e.message
      else do error ("Invalid auth data: " ++ e.reason); exitWith 1) := by
  unfold runWhoami
  simp only [Registry.authenticate_of_refused _ h]
  rcases refusal_cases h with rfl | ⟨reason, rfl⟩ | rfl
  · simp only [reduceCtorEq, if_false]
    rfl
  · simp only [reduceCtorEq, if_false]
    rfl
  · simp only [if_true]

/-- A header is refused exactly when it has fewer than two words, or its Basic value is outside
ASCII, not strict base64, or not base64 of UTF-8. `whoami` answers every refusal with
`Invalid auth data: …` and status 1, save a value outside ASCII, which crashes it. -/
theorem whoami_answers_refused_header (header : String) (e : AuthError) :
    (parseAuthorization header = .error e ↔
      (words header).length < 2 ∧ e = .malformedHeader ∨
        ∃ value more, words header = "Basic" :: value :: more ∧ BasicRefusal value e) ∧
    ∀ (reg : Registry) (s : Session) (r : Reading),
      (r.text? "header").getD "" = header → parseAuthorization header = .error e →
        reg.authenticate header = .error (.credentials e) ∧
        runWhoami s r = (s.openRegistry >>= fun _ =>
          if e = .nonAsciiValue then crash "ValueError" e.message
          else do error ("Invalid auth data: " ++ e.reason); exitWith 1) := by
  refine ⟨parseAuthorization_eq_error_iff, fun reg s r hr h => ?_⟩
  subst hr
  exact ⟨Registry.authenticate_of_refused reg h, runWhoami_refused s h⟩

/-- `whoami --auth "Basic é"` crashes with a `ValueError` where `Invalid auth data` and status 1
are documented. -/
theorem whoami_crashes_on_nonAscii_basic :
    let s : Session := { world := { storage := { workspace := { home := "/h", cwd := "/h" } } },
                         settings := Settings.defaults "/h", verbose := false, colored := false }
    parseAuthorization "Basic é" = .error .nonAsciiValue ∧
      runWhoami s { values := [("header", .text "Basic é")], rest := [] } =
        (s.openRegistry >>= fun _ => crash "ValueError" AuthError.nonAsciiValue.message) := by
  intro s
  have hparse : parseAuthorization "Basic é" = .error .nonAsciiValue :=
    parseAuthorization_eq_error_iff.mpr
      (.inr ⟨"é", [], by decide +kernel, .nonAscii ⟨'é', by simp, by decide⟩⟩)
  exact ⟨hparse,
    runWhoami_refused s (r := { values := [("header", .text "Basic é")], rest := [] }) hparse⟩

end PackageRegistry.Cli
