import PackageRegistry.Console.Style
import PackageRegistry.Text.Packed
/-!
# The console's theme

Markup tags and table columns name styles, looked up in the theme first and else read as style
definitions. The theme holds the console's standard names and the registry's (`info`,
`warning`, `error`, `success`, `package.name`, …).
-/

namespace PackageRegistry.Console

open PackageRegistry.Text

/-- The theme's style names and definitions, packed a line each as `name=definition`. -/
def themeStyles : List (String × String) :=
  ((unpack 3564 [
    "]NLZowUN|a)%Y#@Yhp:X)%WzU0iMeh;vr8Bkh~y9U~/HsR2Xe]8$5RbY[tB$GJw@@x3<?Hci(kVD]WBXo5r=:pr@?sbI",
    "*-pq;#hf35PH.N0*,qOp5.uMu7)~??vA<-Yc Ars;BH*l=Y0]p+-r7(d1a>aTpXC6V8+v!X'HDt?!|)d!?H#T>Es<B<b",
    "r:5ET7c%O]F2XjNhax$P7J7z9,!rxVlf]d/yO*$YSHnoi&PHJP!'WS'2Bd$e@7|'v*(GDnf]w:tLckiT92b=Q7tjm@xb",
    ">XxTt_Di-,C6W)oH+j2/1l2H:]1xB4&_I!BlqqWxW3%:j`|I O5owtsIJ$ xZ#N.=l_dcD?[]a0RLRFYAMG04b-2|1.c",
    "J`C)n'6?.Y_=Vy0-Q|jS*q.DeeA.-kTeVbugMxhi#Vn|8f_PQgA-G3Y^k(zwo#KLv592Xzh,L&_z6p=l7c$P$6 ]swQ8",
    "f!_dz1f>;'S(*EW]|u$,.3:Ou7r6W-0'QCZQIjpOn=sHtaMZ'eCV@tjE`7#RgXinJ2qy*$>=GI*u2Zk^^vRxF.5*gnq;",
    "Kk3XI(xg$?#6h#<OeXc]J7D]C<[n;^R0GhDSK:-Cr$E=FQXg|q8]iHL' aJ@#VD+5sWMix/ST3~ rHV(7 tY%`L~EZVn",
    "^iyDF>TmcE+;.E4R!|yL;hc<a8Q>PV!4KlxiNk->eB*FYAl_YQ_3(iMC:]) P!.xzrsM?pNax1xz1/e|pOEWeYh+S*]:",
    "Q?*JqAizbVo1csbSJ<L6?i78P4>uOvUGb$VJ9(s**-OOTs&l-?gj6%6u]Z+(ymgI=ENYZ=:Ty)CK]nA48j$&33,FBjaH",
    ".RYdrV:-O$baK5RP:sM>&w6Ze#H7n$yn`gcr_K[!g1E-Z;N8^C4H#RDD)])jl(HwLOKI6kqM.JiF,663bo`bwfVT0|ZD",
    "mNABJfCl5v$rd78bul6uaZfGgp70IN/%JX0XEtqnkVf9vre|N:Qv9r'9R!U@`)_mx-Au-[.i(8dz-C,lC@8qQ.Q!0SF;",
    "&cqrjrtc?4Z;MPek=Vb=Ij117i0+mM.?.^-ec#+.>uZiI5/hY~=6H:U,n<#dt29>[l :f_fPSC2rNtu!IytMH7U2B:$u",
    "qzczES`WI1h?C%maMJ ;pp94%_,-lIlD;yy3hI&B(I6yPj cna|>Z)z<S3z5 LBgX+HlGRibz(0 ^m=)|M%sv`93'kF$",
    "qjXk#2?hlMJM@$!2S*<].YL$k.i 5;_iwq 9 p(OHgi9R=^ufpbT</1p*,<;zgB9;j%1J)VToN!qe17N~!y4"]).splitOn "\n").filterMap fun line =>
    match line.splitOn "=" with
    | [name, style] => some (name, style)
    | _ => none

/-- The style a name stands for: the theme's style, else the name read as a definition, else
no style. -/
def styleNamed (name : String) : StyleSpec :=
  match themeStyles.lookup name with
  | some definition => StyleSpec.ofDefinition definition
  | none => StyleSpec.ofDefinition name

end PackageRegistry.Console
