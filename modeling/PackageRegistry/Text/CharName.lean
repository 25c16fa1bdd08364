import PackageRegistry.Text.Packed
/-!
# Character names

The Unicode 14 names and aliases of characters and the code point a name stands for, matched
without ASCII case. Some ranges are named by number. The other names are sorted by code point
and front-coded in chunks: an optional `#` and hexadecimal code point (else the next), the
shared prefix's length in base 26 (`a`–`z`), and the rest; packed (see `unpack`).
-/

namespace PackageRegistry.Text

/-- The front-coded chunks, packed, separated by line feeds. -/
def charNamePacked : List String := [
  "r1|30|v_^+wzEnh?q$Ekmn00)-M^E<H$xs<wacE..GZG8,)Q'l@3NOQH;?%S.oLYL%,&!|?xA0:Wk.<PcuG5?zTnO29C'3%W6rb|+(;GwPCKG$]VMF|aagNQOlQKwoEuxmz9boWlnr-L%)y'/tzf-e?W>$O3yJizo:-%pIW,iI^fISq_jP-r:?R]vP-_:*ljqL)/@0]i<+/Z#aUf!__)=OZI6` 3^#/f4r:N.(9_-luNDfZ *kB(i2zdK~5WyB< Eftj$xP^&L+0KY?mcu)<6|7L7M^1sUM3Kkn0N2v>& e]u]EJ+QB15.WchgVo7*]?sD21m$b-n*GKx~>$Dl2Bb#E&*v.hR.C8D`bFrr`^X*+RA`LGcG@73R=_tgfZDf!dn(8ZK`;k@UwB@AAxyZ/$hD+(z'pyz WDj1v_|J:yi|@GfLs=Dou$E)xidj$8fy5;g]moZlDr0kLxdveob'n:/[p>unm;VcJwPzVD#@g'%XCf9]'!=&P'^Vd&q:`_e2%zb;/|-V[,zZUE'09oD|s9P3Sq43|v88J)zt?m5aNNPys$]~tjTXaSUGfiM^H312$iGDG0SoL8/!5j,v|30qk=eca_Nj(5oWJ*cERg-#D.CHU`1,RDvX+6H<I['nU%z5&pZFn;3dykSV+YcQOlm_,7>zn`Nzx*'#9Q[28PHshlG8Vs#u|LH-e@pzns[fXq^;GJb'@UGpNEHuM`(S6d2PoK6srPkheRC2fW^Hx?iidYcfHU,ryuP+dv]8`!M4q5]UgeYP=&8[Y;aZ|kTy8[^tbM,w,8.81RH+Kj][|$ud9dv4U:U=?pRO&1!M-#Zrs`57 Zb>JH0Jb*)Qy-iJS*6(j_?_)h.n+n-/DqL0=lTA ~N'a90)tEXp`_BpY*_1%DB+& fkN(0F_` A)vY9*uUwnks_fUy=wvQV%H71ZkgYH#4vMgaM[sR-=]Pf2|1=@X)EB/xX7@^Ee7!Km||l+0OvTj8^?V*-=[2$lgY$nz2r&vocn^Hlj>Z3@2iCHO3k!BYEG.dhl~$LtZ5(%l<lC|JtivG*`.QU7W66vfH,%B= `gjA=#pF,f`/5b_q2NzkOt`+N](bav`p-txz1Hp@5&zN S'J_]?ZSe6DS&|ndbgbT=`mH:YH(yc%#)yU&'2et_Tc(2[fCs[vTkD<HI_?zZ0CPIAN9ahL& SvR)^Os7A78OShulE[sBGQ52LSWJ4D:^wzs_,[bBcHp15Ss!cDsns#,s*T12#IWZE&w,KM(NE'p*=/lpPPCzMBHJL~g_&LN;2ihLD-u&=Fm'`7/*GJwPotx#fvhqvJzo/-'t5bFU(3Su]<6VaL.UB9(UlY#Wcua/ridg(iV*b0'p?B>>.ea~6@;xcF@pAmJGBT3Q@k,Q.<'Kg(tKMlNxA8f)*r,9%#-_L;?aG#y!2c-Lrpy`pF0%IKUl=oQa;8;o[H9`J>)hQ#*HR5Lo^'F7i)i^YdI4>UX_i!&Tc?)dPF%IR2t[;3m/ $s$cuE$s5U~S'-$.feJqIRUgdQGhXnlRB;v8A6Hia;$3X f^mBw&0bG$Fl8x0!,Uo#ki;o !MW@4('COU1&6rF94~T`IkwH=sljXIG2hZG*D wiKM2LBeJ/]=<[`0_$1)#.ywW0RXme8i8J0B?TNMO.tJBf$ewi|Mn^K+_&v`<>F@!N;QCR:[,_o~JgTM(6.OVNvhx|)kr9'e?Y|eLpr_)/UJN/9H@0e8_PFj28surtcQzi(lXa&hF/?X$Vh4/MG6<b;|1v0CitUvDF/'xS;QH|Bm>T[wY`B&U(|RsQOjF>6`!j+Ga([#>5ziSpm4VBfP7on?N$bkYY;cY,/37_;qK-mwVy0;`AbaD!KqH23|;Zf9IQYCEvjNKbgrCY&<Xct~E*6q 3&4t[$vHx1-2c2'$t/R$|Ty678'D%p/TKS]#w+mbYxAJPZj`m PP'9E%^y&Z_UYlP.+Cn9h2jioWu,33Hu4v%he<1`k^@A2Q5a'IDn<hbiE!9$FA7O/upFciEd[o$Ip#s[R$MYCf9=vo(v(m:;8I0TNFlhloC!okC@Ha=I.V|Ajp !mT[[kI~VbB)Dk&c&4S&Gi'+(Jkt6]bev(1q V+C(>JJOJxSD*09&a>~-pofYI-)Op&J~!OIy,<a@&H<(03i&LhiyQ2BPrBft!*VuwDo44jf.,#pL=$dLorUl%L*Uk/a&J6QE?r&T]$mFBnN'= ),,wf_XOo5.wMUGNf_.@~mDAg0wR2IrC50$?]vQ3^X>_kjM=7VJNMV84:jUBhss'?pN=^*%4If$fGOpuW>g^<*Aj;6zj=pNwYvhh )f3)wICST@b/M7!&.>dJPBF?:p0->hv^tKQ4o*</lt7l=h|T>,6F0%!WOWvDHXq'O$*lci57)YabG)R/49xgYp`xoF;qpkfaJngqdXeh4/LLGS)%om`AS>NCm4UStU,,x1*gS!,*K*[9+v5*;_RAq~p.gum7v4`T!7Gkf6$wIB6i(%=kD:c9t(>mIonL6jT) pm./Pb`EP !A$JU6YJ58M2=Pe&Jvf`5R,^=)t&|DFT9mtc[Y`&(SAExS+(-Z-mwX|Pl-)wS(rwu28QxQjuh'%4`uwV?iGRnmi2N!n?cq*!Twtsw')l1)>z_*;lemZ/T[PB,9z3nEmC=.AipB|dNxRVap!I%yVb/7HN(lQu6<Sad2Q<HS2StK)C5wxsQK[EGsy|x9lZm8RM7<ql%Ia:s>XP]Ygex)Tb|YQO8x]:|84l;W$:NZUAIxN6~Rm5;lo|jADyPQ'[UjCOH1(Ck_/oM]PzdG-*s>eqXsP_H((BAZi,9BMNGV#MYCw!9]:t3s8[;6YO jIE?B8j%]CS.6]&TFt</&h;?.W 2$F go1Hgh$e,b2[oTi53h/%@2D)bUpr*SY&c4anFHW*3E*sE#ke@A)X=L$#fO(qNJ/5WN|v7MF*v?6f~fr1xt1R/!;hy#L_,XHAduqSbYgU=lZujdgQMsColRyTe`XwuHu;AO*@w`)hzHYGm=XqI0MK+(i`h",
  "<n1.)cHT`tqXp/=C&68(J2gAR;!lf`?xlH>t+E]d%JW^:M9=&XX]J@8rl6aF'%I(DupZ 32L!e)LAwB1& .lcxlk[WeXEwydH~E5'kFU4`v5uc cr=t`d4f?vgIx/]bF 3$;nH7?WO*|C:5bv/x983L3E%(g*RXxZP&L<Lk<i<d BVuOInkq<EDeOL91N7a:?v?XsS:RMyv*l=^y!)rPb7Y`mb+EZwo5KcKf%!yx3V8O@+(@IebPiTk[>]HTy2Ik^6HHM+@<_8FsKIT74ZytRIZ|$1m*[p^<%`tVH>qqHhDuN/tw@hZcTmd7VDC$?f.!WHWc]=[e.E$gsD[YZgA@H#n((CptJ%tib43LPi,$f)M#EKx@.4`_maa6KB[V^R9u.1E[Qdh%lmvVsv@WdTL@H)e_4)-,WE;&;UFBob!C&gLgOc?L ,VZ3_gkaPfEq!#xKjj,Q_1dkwKqEyYRqvK[CHSWB z;Xii/o0a0nGH&rS'0X3lG=o mI~RU1!*4m=$yz*ahej`U'llOOO%1cdhk2qHwO@BJ3M|p#Y;qA#A#hjrd _S!LJ$e/fl,%LJM6P.1wQY9S;sR=h<2y*cw$_E'!s-D=yf+gJ09(MGmsM,~X.|XGFe-+a?k6DS)>8m$]R6t$t!HG/SDn&Dkp %BasHcz`r0zu7vD@#KYKgr!/3s6JW@uuR0('lU<P!M]0<8j]|(#NYMAk>n$IrA)0l10U^ M*dh0J3v)G3%yV'1hZoH>!>X R/oACN:)2a<(,f_;mcsWuntbOVTgLNWO87+F._%` LkV0?61$ WNH6|65/?4EGKzttif24==:l(|zr]S.o:Y@:.D)eG8Hn61T|mJ')Dt~?WI]Jme0A-Pa-[o@-n 8;mQMRZ@XgN<=<f&6OHRz<M.08d_S?Jkf3Xuh|^W$7yFs$EY(]+0EC;s(9(Ci-xQn*_,AaWUQ$leUx@G'MHcd)JT8L'1`+B3l:HT.<Ti]cS yZlbU >x+[#kVCQo;t:E~C<L=W^-=+|_wHHh4%yhws@YOlwH<K>tFeHiU/>|Ne%-h!I_DsYg5ohP6|#^~W3Id(QJ&bF63i&RI`v<_tgI]SLIFiLY|4dqlcN0%^4]9=l>27hF*;+!Cvn&RP7R<sRi=. 7a)J4@Fu 4G(zvFN&N=;')CR`KGyoBC,D2:ouy3hPPeJ3/%K+!E^vDg!Fql6VBiG!HeLU$z=utO5$UB3p94b8;-GVm;+BnWH@wRAa>M<37s_g mFF)<T<?y)^Bc]:/BN]_(UEl8`/N9K_1^MuX(9lm+=VMtX/e_GZFJqo!@V4^ CK*IT`ZRVm@>q7sOCvy=Nq2OOn(oS.Il_zbCK2a(hBZ6zt>.^VAGxt<6V6]@yVcEnWU:))g9YtyOqnk+7-z)@_QnjNC<fO5z?4O9Iwb.]rZm9gXB2>)`k]/8*`_GL$.VsS],$CHn3L]ANOW)z%:j_>AgF/oGjqX0q#h)<CWCk7kmoXRs-^SaoMLr 5! 5C5CaKXbNEN;k|YdXarnsKRps(Zqbf#^g0( K:s 0kYX/^pWlV!M6 jfa`]l<r^ktw:&L(zk~qEWahA>9n0/u|,STdCk#v/Y]^xA]d~Puw_4jg&uzZ(mW=%q9h9[6B*a+A4P-!qqz>IZ#pUujjh ! QCiQucRiRztDJf/0Oe3o%8RK&Y/xAwl- &V (lI+`Arw73L EcBYSEF-#7--X#qa$N5Q9W=KS5tC4'-hk3y#CiI=vQuGhq[Cm5/cbTIts(lr/k g9R.hFNt[.&qzX4e/: 3IbF*Wy,f)-Y#88)m&S/zo-/`,S^kCO[`NBPodF]xX9k'/m=R#IxC|#,Y#^Xmg_id-=Z^&e9>h)_4#zD_v9$Lq9U;&^+C9aNfdGS:gF8jR7<YkeRk8a#~Dh9C1A<,)9XRb0Q$WnYy@<z.2u8JHg2@L@2(+ZtZufdW+'4vxCo_M~V9$a 4@dDNw,5 HS`@_|uLE.NH.qEc'%N8vFYL4'0cL1F~K%]46EM)_j<Q]uulviVgRbdep?5>KpvbAqRlY:T<dl.cDKVCiF0B.ENTbqN ]KCXce]j;gEw` !u5gwx`+<k5gQi'OXUN& Ryq;1xs4e9xPwpos<rLI@bV/^<_6B5[Y'rxQqHdQM>Z1lS/n'MRP7M[cQS5/yGVU=jc0ro]ga=/HcaYOY@QCM3up$mFYe`O]72M4&r-nCSFFyI*/pM3+Q5UQ>ze3hz=,IU@Jc=2h|$4306|A8G:lbEcmB+eDVVBo6JKGc(NDt7>-hL2?4:.o-n?oZ23u]`Qu~Ly.hhm&/T,<^.r|BRB'ozkG;.(Wnj)Gjx(uBgavjm^j:>7*k23:|sb^TCeaBu3]Z-(e_) ?z[zg)g$+sFP[']e#?^C5mLRd'y KGu4Y9CgQ*>WTmqcI@Shu`:yw<be&A1b_a3mHX^N&m08!7N k.`DdW|h/*$%XmI_rR'gcFAU.YN<GxH&.l^V%+EsvfcUk]sa9i*/Q)Jb$vVdFp6aSyptjX=.@Lz?GqE48`kV9g:_jIO12*'=6t=6vZmBHEfU+i9h/mIb..Q)d2o4?l ]0(WUVp.CT^s<vp=LNazZ!p K]n(jB6(gsKk0E<99f=PCmi)?aB1AU|Si[6J&d5]$KRLE%yrhqVzmdW/6/h+0J:E>.B=;yFVB?N=;/ciO##IA=wJ]MZjsW'Ao:6^GN?=#u=BbBDVY1y6*:%zC?EN#g:T-txw+Si[Om1'Go.4&,'slAz8V^XSgoZo[`-6Z33y)]v6rjxQ_vf3:&v0?8D sMXbaPe<,PVUE2sY,-Uca+vNIld:!Ego_3UG1ZlX8&JPr,.9_?NMJ(M]=v!1y ,nI'.H(&5PN^LnwUSoY [h_@v5<2h5;X6ntxUL_ohA!;I4%?C!%=)yaY3nR@Yuu 1;e7QC*CVZh7M]rL FMKm')t<#Es,LF2tCo#b uBcc3?+^)Yb:?vgeBkHy0ywDE'8^:kb>ZM!Aeynz'=? A=0YyNotx(:2jmCD@+5-MT]87j+v&.v",
  "0uP`jtdVa#4-vU(qokx8aTw@*iG//^05.ZWnBD>r@$gygl|JnN-m383.MaAlP9fg?E:oSo*1fLb`rpo`nczh+//tDM*Qqa.ZGJRjuO/Ew.@p#'e%lG(^ti/K67RRc%zJSki`>b/RTR<`OEJMgHsK8Sljs$Q:Yoxk]mAj_#yaGSR)Q>z,$Ko^S><pDZ,zUholS?Bl$F68x8=XX)a3eMFqMN(*8&k_u$H/,%1'xdikM1<^x<`yh%5ib%IlnXjLBkkP(iVJw^09';yVF%IRLX]>s8O[rkb.#m-Uju)e.U 7T7RkOD[6D,8h+=[N0Ucc(:#ae@b_31QV@NT8ToFao)/v&S=[vbuVIxTRU$Ij_e8'p0]0;9;)XKl*OF2X q78;?mhssn^!J5l5hpYQ>XE0H6[MxlatzjrU+Rn>Ht8|/s|H(k(7cWeXZyb:Sj9#,x>b1/:AxUTLOu>v4oE)1KDggcVaJ/=K)4iU_e3'CxDM<As=OftF0A;NGR]f,EMgl[:IYTPTdym,6mzm]3P0nvJ)BV8645w0RMT:oQps$<Rgr!a_)6OOVlgWy^+]%oDr |8fiw9Pw%Dze#l>`KCKrHaXuED=/$i@wDFzk1cmDWZ7)=tQzBVpFhWpIzJE10|Mb:5p]Tqj$?R39@3bk?~;O?)4s!8OC#ZAxt1&)@pd~^8W%86tC jK6!ULWi^ <5MlL6CXoK9Oz1<0RfZsrbBWxyMXMM)uyw-Mp:@he(uIN0D4pQKz;|_M'V`biD6-!tc/6el@0HH-,)'hI?%W-;`%iEIQG_n#lT%1VM$=PPC?`SB?gUYYP&+a:'BxeSc`<F)]x]je!-Zf>|]hJjE]FA<3<`#>|Ny,nbd NI:(hLdyU,;1[#].RY<)i+urXo/J3VE+K9<P%qW2jnvd?%C95YXYsrwwE_QIbVhvRG5SV2yBIq:J>K;XM .ScnyHZ5nq_P$]],e$qQ8@aJ2u1AXz2t!4X0gM1V_$<e:Lzu^@5):3-f(b$EGs$eK.u[9mg[hSktr66I'y!6ji_O6jeM>WrSB>A4z`9N9KFy`. KbBkh::;ol>%49tb^*BJ1f$G*aa~tq869Q^9JmU0VuaDC1HAo:Mz|L5I$z7|<pW:P5+kQv46i4^2hjyP*n xP^Of^p`hxikzB4OGc'yEq`C=Ofy2KCZX]sErt.%RA]8UY1j$slWlpbO+R3$QM&Q vU<Kw'R+L@&s53GZ4QGVj$I-Ba_k`x6Pf#Cug| mY;ANR<_=dUfzsSul0xj9wtRoE18@k'wm'lSO_RcDlKC$V/:8t4hHtYvgRn1B9Lz6+o.hb4yQ`|uTLJr@L'e R.FSx,SIJV`oD'L_`$gvZ1q(W+iV71EeGfZia';_yM@T9YiqjM|_|ccvX^9NL[?dTlR|$pT8,sWuwlT-PHawc$;M4|eHb=N`GWZ%68^!jGr(s/qg=1,!oh7O[P-E+|c#RSBPR#n=GcIysnu2+Z:I1*$^4!&rye@YG7q%JT6+I.9P 9(`YB*D+f*>q80Xk''j!OcCgh)Tg~C0X?j*SP_zd!|,YP+v2EIg?wR7gJ?|pu;pbe(~KY`g.LjbLCMUAp^^85jprnK_P<on;2 !m N;<Q00b7,&-RV,:#ZWDc)3,&|x3nY.J4(e;UQr.3)(h=Y6xv5M/f+)t&v/;CMz;92T=ZCe;uG8?3aSB:o#dK;lE?P8tZ+Y?NyHNk4g[6dg<bGL2zn=Juls|&-i96Xt`?E=pGh(J~Lwm^TKgG?b*8uXTFvZ>f)M:x0PAI3j|UZTDclQpvd>!s&BNt0z.xalq^)V!|dD|w@>Xl]BN)%&9(<%Of2&:U8ZLBxw2o)+fS+k@2!B|?vSS!N-u<ghI'&tR_G& q[U^(K_1*X`7b]sG1xY^Z/82Zdh#dUj7P%&Pk7%`d7C77pZPEP?cstV9;|%t-|^J7'1+M98I0HGV,-n*9)6|4X$u`Lob;1h--_xRm[5?)TD9kax3YNq(IZVbj70e&fIZNew7&MOa=-I<:>CN//^AlS ig6f4*bJN$sj`ila)^.QxB;d8Idp.2F9bzW1[vZ_B/l:gR&:l2lhU=iT*cpaY!F]|n#_Ua1U;[qe$[oGn.W82.SnRKqyH^QPsCg#d~;PaMyPd>Bz4[j :!N$.vP_dp'7yov OuN5L<x)`2l@g[jEE7N1-:RFy(]de_3W!R|9neaWE08hFh:kpaV&?A+AM(lnoE_gO||Oziteiz]LL40@o=%M!F0,nI`|fS0v]8pvBPvhpa[p0l9?&@CMd0]]O.?14k)3$'hI#fZ#5uw`PQ[MEFcXvv=sVki'++zSkX c53Mo_JKKBS7Wmr ^vKdS9K_H!nJ,%L&/pL!~iyw:AKNQ`wmLRF:CrZgVVMMAhe1=l,i8=OfjR4L)DgE3joDBFGT%)->m)II&PK`uy3vY@k@I/Y%gx2TR3@QyKzg1euQt0I.,,G$4t5Oe1@YY-Kn0eocdsR3n6%HKy%FcDYcmv$F)j4$iGp8n[)Z;oGCy*f@q#%OV0zM/8-^.A1YU=5vi#Mv&j|a1g!ib8HJ^'9L]?;_R<UTzZ)Q6n;$L8)^y^ 1B32f`P(1y0UN.N:uBROc,75|'-72~M770X;LK1KlCYb(i_R)yU=d*M|VJe)!q@3l6(*>opk XJI8;[l8b(zmbzvtz'@v5[`q^x9LL[Mouf:eBD+IehC.5SI0z5l!>[b&7sd-7XHC'@+hl< #Omv|_@D&NL;+r!+1sd[w-W>5#/+XC/HN$wpgc^qpU(X</|/a 4n_1(z`WBBq4K-j0jEvV3lsJ8%19$-(yuOp6n4hEk!`km$S%]t&v)h[-Wur,xvT6'3|K:pvq,/g;Z(##$Opr5eq[=[d%@$jeQ9h`mZ^NBILarc$HmL/5JbA2(`iy)58M[Yt6y(.>w$evy=h#|-lnvC7f-YVd/TC>/J$7JYy/p=aq8a&>47<~bGi<#<c`Av>xDp3,%@(=#3+pIvMI1,P3q-nb1L;X:?S.3CdohwgEqmO^>>C'Tlt! ;b@|l",
  "i>:_lW9g_c/yqO2T#Y/34IJqxvyFi[O1@dxcPhn'RT[h7^MQmmDM953l+,H/]7c5^2OV)6m2:?1JWPbX(UuG+wrwJ]C*'U:MLBs5:Gh4h4H#7sS_9taTaMbGdMHGp$<_WIz,4(<u_q#c=_3`jvAVb.I@I%|SwY/f'tf-=SC=ZbfpQriXb[g!wd,E^d`Lt9a|yMlV5tEm!MoFQ>?CIZzHjHf?fN>rg EHJ3bX6K&b;ruC)|)][<<!NC=q7x*q67wfP/9~B(L!h8fW&w9J9pv(Xx&)*%^6f/juD YeDc`B,:djp~xQdqejTPRSvkr>$6l~y)H@9MFopAg<2(E4'k%,w!k,^v_>Nkp+FPjG2S_xolpqR0DFNQmHJj>H$^tT1j(_?[!tv[5[_bKd#gYILmkBxw=70Eg5k+utt#HgI06IZ'kT2dt#ruS~Y Aug)aBz' c]Oeb3=Xu+]v%.CCCKlw^j+L`f7nLg1S?l/J+v0oL.c+.)#l?Fu8%m.3`iejd11$N#WR0wH*fX3RpdlB^;%yJicZfK#,NAQTJm !|Z8*K'@Pu)b3xN0&RgddNp;Zlbc|CImLwC R8+_j+<,HN9q17s]joZgc.6/fT-BB>_b|q9;E>VLE=V>vh5pB Ht8wbN<bU`cim9%!q>eYb-I_m( e<h-1/]cdg!pezOmwIWYL|w:Xdu]=s@YXyyKq^lZ6+WM(naDDT?smJ1I&qDmCv>/<IKia(l7u9(J5'Zy8htg/6I4E4'(=MgWFmj:S[%=RZlsd+vdc`Vy1]MJ=hW;23K>lT'z@DkMs2wud^c_[^qZpqs]TytI8+rZtdj1#EmN<h[0j-hDMoZ$Ay=XOm5a';uq+aC;C]=$HxQfm/3troKPLl~IT)&)0RBj<WDCc:0[p4)IY=[dM[EN19C_WO(#@&Q'$;wxhRW*fYM?7#EbrgihZxN^fcqmpb7=f'PKz^q>,`@!k0&&6J9;d96lptb]Qrm:dE@;y#:+FIUmCzwJ_LK0hFksJEVPg`^P+1EY<cbwY-JOOsjFk;(TUx6NWYdv*vGaA8Zc)8rjkZ(]5.l[8l_wiMMB?eNCVj>mRsWf _RCI<seI>T*Vum.U=XCYtPj/J.5.B n#'VD'w_d:[VZkP6JBL0YK:[`NowL'g'WcdQe(&m?3]Me|Nw1I,uqsl6_TfDJK:fogTF:0WPFWA~u.O/'rtok&+[jZE*cb;*4H!DsBA!&y`+,8|a_zH?7%JOYzvx;*QNxVlhpx|Yr2wY[B&v^4]b=&(P)`L3G|!Q2ivNe[fS@&X685!mtOEU5dLd/SZ[rv1o!$W`KQ9w#VyG-k8D&pDq(=TyJvC m+25)@,[?-eE*^GLBKB$gw-qx+GUSRgf@3=5_9M<(dXvN|`O]=v/DbdR>:syN&;o*dN9/x[Y8FMbaP|X]e@SG tV#^Zw|a3>S,M645E!|a4HArWi12[>7Lo'yA8VWpwuzW1M,7.c&(STh`gjtX-b|X#e]ZJqnSAf/H.J8__QGC4`w^K dmSvGI;)x[8e)gW|!wiI9EJv>&Dk53CE0/+RzIB#%b`W<N[?1jq_&BQm*u 4dB$qA_a?Y|lCY-TGNn(0(N0QK!XBM@^bwPMgd<wmxtJyBzI4-vt-NJ#'4t4x59Y]s615Y^Tso5sMnd_l# Y|SRedLh<:'GSpzc,H'x0Sa$nE[k:'LDJN+iNcw^y_7SI7C(f:rq4Ki&#$Da)Vf.Z[x*poYA334b0.l=f<S`Z7V9ngxJ&.Znvs,q@,mDk>!`/C]G.dzy[#W!t(L'yYMLgL5i/8vP-:X9uqfzSo9B2qM)?@Uf@*Y'^Y#0/E#> G5fLwBPDz16i*scb:aM,I@j(eNmRpcBP-giSXT!4J76s:ExRpYbEk66x^S(YWu;)!yC%.#,Q4Tp&I5a``xV4FULYg||)67^4DjF,^h2G2bTW,F1b+p~v:B+bj!l[/>5r/^mtsPnga?I&rj7#NO8?vZt?fMAi9Sq OPBU7;F0g9>Ptt4#ikyJxUw+41o%fI8i<M7r]erQLt%TbGRN+g,0$b!^eeL=ZaiQ=6MJul,t9+obr-)t7NhoV,7=cHye30=pRu'Jr_Ur`5f+oR$C?>j8*tEmff/m<Y]>`tZvq_hdrTKJF$o$#_t_NghtcC[rI9XJwhI-DFI(y`_jY$pHUKh#`=_2vB:yan.H7DT(my`_!@>98,A^gMPhY0y|@y1nxvOviL3M@O</Ql<;TDI7TS:29^dfF1@`*Sp3-Y5P5NpV@BsE08)U;:|0C<OUqUdrqnFzE+]U^_Qw2j.Q:)^D1WN Z7^QVG4ux&s/juDK(u'a7cDH+.V9%ph?GU2yxqzIaO^g7.7PAuSOy9_^`WZv+Ba|?Q!6m8yM`KnGME&H!ZEwZh+0k$,b,w'9Y0[LsRU|2AK&pcA6#/G&g5iC'=*f9&F=)%^Rl^vlaN+bsqAVR^9HFbV5l[:Mp>AdN +utKHH:D<s@#qJUlwFSJaal@FR+'1t7sEVQI8r8l/g3s]P>Nj>hzhI0/c2H-O+dwnvc*t%(j^UwrD|gW?l E0tw3j9PncGW5ZOYD5UY^xiq@p_S|5xA&+%kC^u1YuCzeOo%-l/I.gF,Fcd]e9_=BuL/Xcs/AYSeD--)`uGEUHh(;DKCLLU|@cz@^=6eVuf2w5Y/f K8_g2$BmU.V%$)IRjjuC7]kw^<WIz;Ajem(w/|,D^,-RoVrwSNF k7CU,,8t]Fv.Ut`Zg$UbL4r'_G5 B/_GAjh %brf$2t*yo.j<nQfm*31AA;=OIR3ub|b5lf9fav=sK58/3,sV54;6Eu#*|nhA@|F@R9aD**Ey,*WJMxx0HJ0Of7YX*TI0^I-idV+4/Vi0QW~u)?W>L#qDN_@yTOWuxThFB=^YSNm|3qFr!'(+slo7//:q4,_mz4N+a|RRTgjb2`8sjeiX 9%SDdZ1YWSS/bB<Q]>'Cp)x@^l8#Ma7z6 '2/.hGp`61K Ni6ah=%V#[MdoyUfq9P@%^9H(>rSTu +:Igp F1uABd1",
  "/AHU0*Y;6=$OdYHvd3KAhH`lJ#r=fSc^_Int>OP):B)Pa`C,WX<bU4(r]mB!!Ag-,~gQ$RIeKGaYH]7@HJ68t-+Bnh|Z'&^s.P1QPHnZk.B!lHVp'd,8Vee`7C@99y'vW]`ED'/:QSiosE% 5m]O'N%Bv6)M^4T<81N6.&=)NKyadPe4sqmfwk>|+Cqn-y%U)#w8)r+J>R<~)M8nfpG<gRg`pU+3b= %_vmI-.[LjVb)`k@SCI=:VzS'vM+,+mdD4BS$COM=z3pA@T=jN6$^A7GR3GV*cmh2EoID1rqCJo;i)dmDPI4J/[Gph15NVqTg vs6*?]x&~%Q%[s/-*vzOF/3 ;!h Bfd7S1Vp%E3S6|'K1stnF:6ol%Yu92j7jUN;&G6fE^K #01j=cYM7E|r;4?Zypd;I-`I-ZE;3FZK!dNO)U1Y>9sWQhA_jc|^ZCEpV1~ZAL7-h,QB$-;vg`@)2hwV54N1Tfg+nz2p~JI8M'Fn=Qm?Nn1;i:H*HeW`fhHAXe !H82M@#skUpM.kqCE.9I8iqRKL &T<r.zQ:kI/akPXm_#CX@9?R&T!:e4$yMhr7H:&51SLUbInIHk=/]&zNY`$8J35e>X_eR2EatpNU>6SR@FD@cKNL4Ba/#er/dGR,^G4uOcNZ7LQSj[+ 9X|g>7>t=kP2)i~t@Eo 6XFN!C?`zxPy(L&|[G9i>%Ls#^gkMd9Snf5jaI8bDYS[H[*w!P':9a=Nq5K]EqUisuS$3P'(DGt29$aUX/BWNH:pF+yKOQ)<ZcVZ(,e4Yl)*y=NH<[0mPNOV[sksE%RDE@QytWsFp$kb.<lY(WX+:u!uslEvcVkQ;O2@K#Yoi:DZ$>zJL$cFYHerAuX|q:G-WsbS.L:Kruy$blbvN39vF+lLt af93UT :5B$95D.bDU?iG?[sKa<]WXd,!t2J6OUtWI7)vj:@N`&:N#|K_Akf3z@Ul>IylP3]Lv1=*RXV0i$z9xF0tlNCRGTC5<iTBsm[A4X+$jQr|g;+qQ2+QE/2r@uoP7~;9,LTB@T3A=MUOLc3!Y&pW!*PoAQ)%j7G/'1;NJ:|^N[^)AZ+Vv@;@r=#gO*sxfj_x$)B~d.6oeKXAk;gdl5<WmKg'.pN%N*7(,'7'f&nJRrH%:s`WwRvD:`+r9M&sfs&6DZvHXjw@Z$F|mkW~xx1'[x/#ibrHC>FhCdaOiki<*6)xa:7F|5c6+ox#rS?BQlp6fa#[Lw$N&Ouu /D!$=iO.y:50>!5F780wdDe!DbcqalkV?/+F8u`2D4CyWnAw,wm@A&$v`NL-LBRE 1j]skT]X#@lDhVdC&ri v>Fk8v/PGm(.GBAaKxuX:if^pcm[Y,@z/b4e8~#>de|4o53NmWW%45RmidjI0jEqDN.9x+'#jhs@[jam;dA0F.$KKL0AL#fKfM]TYr2%9;E.|[]j.<[ :ExS5WU04/AGCuM*e>QbZM+2Q?0/7t[7%,1i.HyQ@:_V?C|=yv7jRheh]Ch*><VSY.on7VMgb(+gEHm?weQ1^mSA%bQ*[.r2ijU')GZ6&oo@<c%Y%cyD>0+oGEcnnb;/lF|;M2$Y)Ybxd>,l#7NeYSfpq;U[G/?0&QC,%p6_<z2mWt1I`:8Hbx kuB_X].c!gu?=qEJP^?e]r9E~6o;Mh0|)yIv*[#JoDp@6PF?b_z:o?zM;xH,]u.7Iu!&y;>juZRp7NsiYtT?vIVDa]PWB?7soEN]/PJBF@1R85W7C25Ll3|)!=m41n?,mu-I+-NtNATm8*bPr5bHC78_7%oB=#=wO)[rk666:vGiUC[iS;*z^FzM]rCs;nly?O`Ec05xd5PVACn%ws9l~Ug.t#|ESNs[XdM!;!^V*m7l`>TS?'-'+nHv;Q>MI1OcSX.k~Hh?J#`xA+oj^'#Eq)PoojLCLlC#FFH<Vf<f|HLP7v|V&?u]$o=;O??P'Vs$Xae pFARXyUk$7;V4B#?To^*H0<-DdYPB,XqDD?!amq?C/Goul <L#ohC$@d*.# b/el<vGpkCm)S/qcy+5])Lr!u*Yatu=u+GjMdh~n &S5le&q!DRwKyg3%qB|tY[wy(!<?4M[xl@$X'*L=sXdi:A.?<P>A^! 8dO?KSl-Ii:l!2Lf(GX vsvt?&yix4_VE[E_:`++5,Gk*Y]>vsQ.>:iJPL>mN.bzB!zx7i]-NhUT(SG8m8+w|.Q_x9XehZkRuS~.=ok'3HDi@sSB]h =CF?F$#_D<.OG:0hh^RgV[$&1LEREKh!z|@&VWy6f^B|-g-)AsUDLX(e#qkg'V mf40c_y-PIdA?Now/hc82S=yF6>L /bccYd>/2W$@HKe~CRKcVN#Y2X0G/vv9cr3GX<)Jp!3E) Y,BsyOC;KXGz]rAhB#:`0Df0m-67u,k+LPTC*Q1S46sic~KU0OshX`c;D#_$JQz$_YMpT|>9Lk(z7IU#j#b]K=jc&j()pzRn'yaJ^A24$)%7)xaU<KZVA#VX`$<Wv?.mk-'Ko,8w!1-$<aAaTKcS8([at*Ne]`V[ju& FSegGkwUw^1>oJ0&q0gP@7X(p+&'v Op;%B,j]n8o<D<=5O8osv<( |N$4syUOw`r];@!|Nh1zgFH#)<rw/Xa#O`@?Hw_=<wu@%wVK.s0Q*T#Q_IOp9z6uaV1#_izA[bI^>Dd)X=!n)S I`)Dwrjv,fnU;7/`6B^tCMT%h%VkvG[5C)ol^^[lBSrZ~OBWGMkuDL6SCxgWv?wLH[rkxWK6%jwcxWW(FD+]AqpKyl:)?h]`/X4e|qbto1l<2SVrVs4PqKk;z%Lvz];%iFbpU0umZxW;tmEUW$R59'~k_=!rg@w)LQdrbw:<g00P6C.b4|^v$aW8DLIk9o|4PC'R'we@!xq6!zfPhH9*kzCIg).#R|hFmbx5+aIW|l8qx>&_VXz|nKWo[v+STuq|KN#!wN5X9XsC^t3+cFg3>S$3f=N<&g7o`hD!sIp#O4ni[33kw<hdjK7U|JV/=PM%H%W_=2OQM#6OZ?dcm7bCA;w",
  "3]pB0fTLe)rsRz`Fb3Lh+o8n8O%?+(3'c_9Q.F&.C>6PWncG>V7sb(=[z.XSPFp._N=arV]wtRC`/V7q6ZZa1LwmY6R%I%4H@-^/9R9[OUy81WMDkZ?~w-2>G1QYC3e@gkeIE&%d?EIkht%_>0/j-A_.t%CG&Wrr47(M]Kh0.sR'/8(5yb(>01n;di'^U9_HV5lN<oDn$LWJ@RCs=@8*4^n++G6HF#1SKl96.x0pl:2BLS0xoe8<=?jc4pD$.lo6isTH%fHZnBgHL7RG#'H&j>r)%]m5/9@#NXck@V=tAgK#8IF|iO<ow/ZH#9s;D ^Uu>(kyYVY&;W@F)^RdSmod2MJk7fX5?9I3g`1+UHTJX;WZfwOVoyN.)6Wl7-vOJbX !H<N:@;u|=UYk;UJbM0xp<6VJ[!|y*Uyz%QOZvx>$cB80Q1[tTb,Ja[YrlC(E%# .-R]fgvYgyt3P>~OmO'D>p?`]*q9f(!PguJQ^H8NStR*!fRn_x4g5x1^[g[a)v$!hzhE[v[wA7B'(D)+&Bo@N3$,*aD75C5:>V`k2ZTT,/ 'No[dIqX:JJh)Kj,YX0E[`&fw+x^p~S*hGO~n1t$48vl+NP6bzh0wwuQtx/CZ>R!s1j&.)6K0.<<9QIxA0(R[F *9=7.+d2Ln[U@+V$TD(oj1#|Lgq3)r.3@QP%yq@BL7L8&]Mmj2o/3;qPg1Gq$0jLS)GG`V3>*IBZRu&1`#ZXr7:@T(1]4YE]GzBGvZ=4Uhm#l)K33%h:jjmN)2x%seAicn++q9c)F$wyf&'K~Q,3|'v!f,rUZ`QvGTPt~KUtNdZB*a]&E0p:O#?6.G?TVs#!fbg4Fm)Q<WD,q|]CUykM>(crNNafIj73>6I7C^2bg([4ZHjkVGV ]:Vu;iE^*iu)OctR<'TO)_.Zt=fS?Hj1P*/2h-ohe-I*l`G6],=Ua>;-wz6/M-HZ6jc0_v|[3D-GjlbM%X-$RbWktZCn5_e3No5`ijDy'Un4skK|] %aW?NVR6j*_o&-wnycA/;-Wcmkh0A86ZN=Xoy;5zEAj<7GXv8hd7=KlsUds8fC7oiu+<TWoe55wXfU2U$&53r5/9C,hHOq1>?cY5ZB?+il!2)_HpWaTj[#?ZS*b/IrjW-<7.HCb-Sx)0vSG=^oAqT*bP:ky!=j;S%6HgilDadotKU<qi0?.,JGxG%h?c0$ 8lnu_X(_?ko0;%9JTPQHDR=VpkA.r.&o1z%PVY'(*N_:[i%> TXaPP(?x`'|,=a*R*@i:jcdo$V(^y)~3:I*ugM[*55&a`Y:O@ld9X;v/7MGMkY@YmPr`<?K+(7;iF_xx9f*!AN(g4$#q &0;&r'6F+L|3Ve?Js|xK)Y_!lTQ.<1 vd->CE[g2.G3kdKu%o9^LZ$c+GMpsm/&ojQ5X::ps/N?~?3-Vcc7'xO%2N3 oex0aY[#d6zqZJG_#Fbj;gf:H]8,!)=DC^@ZPejs|[|K$G2m>?^TB,I,I|UZX>.o)@,zaJi$[A:i|fY-8q2t-Pq^G:]BiqACp#.1G6SuYyOd%Xz&M=tQwV%,aMZ(*[,3Ti<. I~*Y362JCc^5.wH@f]7T]YH*,v@N%3<liL*GX_0RMtF<<]>YI0,B#pc6[jok9L-`5NQUZc7J+!!fK!P_S`zAFyvF'k/^%3BX3L7t,[@cY!L-IpU?Qk@3e<g7Ewd$L^>II[FE96#?$[2Wwq =LqA',CuSA?YjOnlIMylL4s!WA/sBQAHgDXV?IGBB+!;U.WUR9k=7`BF~L(8v1&g~[Hi)@Ru)YW;`U@ AMW5oI:)OEszf+x<YO`<,v[a<Hj]H_flqMV6xkrW5Z><VBQLcXDD,M4_JhiVX!(bElcICi6q:%iqnQJ553M&@|Q/=12fdn]H?VxEiG0H'$qM(U(|d2j*9%3-RmFuNLf_]-l)_4))HyxW:O!jTE_j3TOr(.QK=&]GUx<e[=F|nc9%KDOiBeefd4cOdpR=~7,+s2LQfXJqqVaObbVUY)iu7..[hbX/(S*SlNeNrlq,.Uo5CI](w@3-?]>8(=h9~DJoNZi|#<!=Y_fj#C+?X|&l<UVL<!Q%pX0ZDq*T>i%t^aAm&/~EcOT%.B-2|?20UU*H9L*.Q]hFBCC)IZr?pB%o4:-dd:I@=rXJYvK:S7a!CV|1u>B>rbX;S7EZ)!fT?58yv&yz6VfnTHgOd?V)Un r3yi13d*SsNVNJaLEcE;N7i0%JAg*A@-:&qV,0lXdAqx$7H)DkTnl!:7x2uemzyo3(F.F'/OJiNZ|t8(VLFbyN]0E(xrm(1z?IT;v60Z[2lM0.f!IodqYs_l78hl2ttJt-p2riNukSh3$j(sB5H`!8q8T~=`Ho*x7sQ08;gTiaG.jfJM>.a0jq6%f;0ea4@T+qcoCkf:GG)-1Dtc*JnY.EY]@%SMFNnvYjDyJ|wC6ABYHv8jQcN:;?7P%Q9ccrYzE#Z:!ITe||%K#(#8L]S-0D?b)o?LHg$5w,f/0:(B4_V3_(-Ow/7@z3J.C+e%[$O1Iste2r/Jec;YTVE,Yo^tH%!ThQ5l5?9~Z8r5RuM.wyt^(3|zt`^d%B<l.,qb >E;ahx@!Xr@1$914X%2o?X^xXJ9DR$ComFV>tz9L8|'UlchY4V9!]`.,hR$ <|K<g&g%N5tf!?2JS][/7X-s~9~V&;3Hg-<LFI w61zWi5E#~sSh=a92lj&_v>AzJ+KhohTeoa%ew6v7</P>2XK7j=7J28oxUrI3cpE72e2Hep!&~8H]f-aO~dSE@XohQPo]>60FSq#U+@b4ch`klHXXQ)Y.7j0fft!RCd?upk@h!w-kyN#0$]E9V)HmS!j%:]$>H9q?NTZ)h'/y28]LG^d|'C2ciUnaP'wG=G6ah46|1qE .mhvXzP?]!=zI&a`(V-aLcI&2FlfVW0|;@KhxN[Ak:#x R:`[;@&*SZDv*2vsYK=(ZV!LkV#RRmvdo^R~)2CxrC)Z.a7n?U'#2$BIG+1ND=PYAvL-BE:<DnBrvCl%F&8r8</y5E",
  "O$LiQ3cvp$DFh Dz;VO]hy[1.Kv`#W4(%,N_4e0 _i9p5h@sQ(_jZNA'.WG%,WN$n!;2Cv'7E8]WHf8G4F!)+6(?j%=E@@_ ;db,VZDb04As_6p!AxB)gi|P6]g-v|RMya!Swg`9V_^L4gRuEI1yRvGQw+(/SM.o+tE8U'DR]r qu5--4d38Tsl+y#W/t5*cDmm_lMiBYEW  ,:1P2nr!85;S:3^X$Lyn[@?ZZa(%mlZk2AXF^)viRk(2?7(&P?C+M3/-0FX.G)|j1j[Ll<& xI78KMFf8haH?0b2W[Uk9TU(zG?1!#c'5IQy!FTCow&v3hv4Ww<XNO|+R:^*B>0jVxAq;]^H|. rMK;5@eOLj4p_*J=h<i5@&v2@OTWXdk!Z@s9(3=Yq;.`;:xB]HdOV-kaB*.Bl$VrLDw>NW4fjiN_ihHmZt^?,l45:j&#2a>5^AaG,26d^$lO'-n`r;teUBafaT#,@X*g:F`L1Ub ;&Q*I/Ik/6l!B[!ql6%;x2aRMe3;L&P&Xk3!Q+ ZTFNRpR7IFyXGTA0uT45<[+$EMhbT[C#0U'l6To'QZE^Z&rQw%wZ5 VLOIAYE1U0Id ]Iz*psANln3A(]8h%c&@4rQ:My8kyxi?9T?$/#KzD hkmO_,1d|2yy^|_/Rj8TWQWP2eT$Fc@=0Qfh9P/+|&v1+ttHG?j(Cvd@ImH5w4 UB9ou8+a^VBfcZxXlFz[jOs@OiBBs$h77p1KVlIJ26B,BoN@ax.#b,O*ub?#w81(TlR[@^+*p*svOj.wAWv(Y($%TLu4=O/@v]WuK<L*@ -2x4UfeNdcnwyY?$DKyQ,9(F1gKq#<'pe5!3PT4A3,nD?'o!vAh/jAYu&@(OdJL|s1?m0I?V5Gjay]M[Y4pj0fw*oKe*y3*gIR;*+Q6_@@|C*DTZM)h60Pe0vhZFU'C#Qu;Tn<!vYtL:.uOMumx+VJXRuAk^X.B_9gY+Z<%zskh]?/v6~6R4_;jpSC?z(*]swOl4-jW%>!*y![f#~i5oBn$LxSWyc0P)=2Z%?_lj,A5H@TEnrLO^Z=-TM %p8$7hU$9v~8?V$FxC-YOUYu9xJDDh6P .:T|-ze+p|lt](Ri&(^HXn*k_n!.ZF##:);#kkkH8JkUj;]qe:#!<Hq/v4NDKeygjV`ctiXL,:TgzeLS`z3=tEuT6=BN'Wtz|Gl47Gt|q`X$F:[&kFm8q0`CrT;_<ap<).#5x;7~EPT fy--M m~h?6wvz?c/=<=bL1Y9;AAyaEbRO&(oBl_`*O)bDp#6Ce'l_J+dphK:U,IE@NloybCi7|z869uZ1nYL%9k8Ezgt`;CV]e)xFBs*YDeW|.EH[#n.bw`bXU&I~^j!mS*vy9AHa,_lKwMk,w;h@>?2h3[Uc6*F0Gyg(@WvnG)`z:DN]6d!.jwC[k19!H`LsDuKneq-_^|lxD[U3dwU3bl$8_,M!n(9vCqE*j_`2+3q98nIt(BKEC7tU-8v'l-=qEYIgM'fWDcc4`]W0*8y&H6?mM~'J%Ef@RoHiuo&(JhT!Hb'~/)c!kYG81$Q?vp)q'3+7ywe~NoBkm|moeBCtMLMtg-Y#*IH+'ru=Gl&^,zwgtWh!bRbp7D;ulBS:[RHh L&/'-d<L>$K&h+c2RskWDj^#T]95TuisCHjvF2S0[P;R4nuku>$q<d_7[xd1`1bT`nl^?.[y[&78$YkjWmvnrZw,y^I<D+pCM76WuBVnx=)l4jwzU)r0tPw7bRN5Ea0<r*3Vp(L^2c>S!/j;uSZ<V`5z,`'kFA+dxoxzEDdxFY +:3@t~=:d?F0|T Bh7bAmhE]OWc0UEC1k</(mCf BN*k-qpym&qnG~RM?'q2sn^?eMKbR^y,9h@F:B_#L=;?|Po^.1C-c.w2oRlc3z5c_b18Y@soz C*.MB>X5lL>8e]5YM4PhgLpBtjmB?y-bc?sh=$ju9W]:`*#d`*'^ro(g.N$d!y6weEv:rt<_@Ny~f|TsMW`VyT+|zP,U _$60N]7[,3tDTde]'O~!zl<.`oE%=@u':U83qxt(L4qT'uzN|cIlUegdb9#]~2]nVBz<Z26CW<D-|tnm#lq e9$L*Ks#pU~Plxoq'nB5_M7fV6v%_#:my/.g%l0 ,sY.De=vrA B'R2b_3qVR1ipA/)6w+!D8Tidqr^]6ruK;M9Aw>(s,@<dv1 (UwlWA?3>.mLHYQm<!CM$I0t1bD8^T|s.]ziH<^cw+V1#)tzp#kHdoDwXCrzXTaP[:+E(:DIcn%g  kW]S19|ri~]>Erx VVY.mrC2#8_1o->@7E|/O0$K]p=AjmPc.K]V7@=ms/6eU5.$4=<VjU8^vn`bd7'.<wnG3tV9>'I*gS(7Zb0&!)HR|gD+-flX8m4Ge=FI(naVua&~h[sVz 5@#X`xd9hS;v,R8PYfY;#c=Lz9`*3%za ym1BH2 IQ%bA.lU8FNSsYl+H*6NP6I59u7$Cs@Ns0GZ8nA!Ri4tyF[2(;*EpzneH('^>l&$/j3JD@ZAGSJzpiwCcF!Jf!H~4%<X% q~%uJ+FY%@N9l,<yrE_O<MXwJ:wg,7'wry<]Y+,>4c2g$ElfmR6/4XlD0`KD.iWAPz(&F)_)Xh~ j]5So:@uNIyp^9sHL(&Lp9,M$/VhOi!W8oq=/XtoeRJp;4jI_Cg OFGL6_h=q`am-7HuY5Qt4zteiA%><bgC4I*I|n%Z>t k=+gY&RMU/ a#|?!KnVJy8t+eHb<=rZPXgh:v=YWr:z7@*iQS9xDS:4>Rn+BNdtWAKMRMp]fO?n)0`YxHVGG`6]`uen'Nyk]vZ1Nn82`pS&Bl>UA@JvT-?@S2Jd T'e>iK3Qcv|GW`!+7vgz_[lw;?YK&YxipFI=y1[L#.8Gym|]hVbM7Tx5(QArJTAVcXFr7M)!X_8bNQnFac;To$9u(J[)&WSNbq/ mud#XX1GTZhA_[kk0[L#V>6$D`=qBIu-yM_Q?;7lY),$$M9^Bc+N<'j>XDN=4rk>iK_T1W&;g]a^;[wMocX",
  "G`9VJEc~snYe6V0|w_W%TkIz*CZo1GCuT,j(=1JQfs)ny;poR4dqT0GVZ<+G9W]g_HSJw$D++Gl](OHI']1=z-Y+bo)%JT$n+4mkqk?w|sGymK#pV@k+g-CvA7[Z=(@35R`Dk?|_p7[9<8FLQ!)MKD*XA+f3:Y]>tDfA5yo+H1bg9E9#G>oJID,#17@~@_w2z]+- ? K/Rmn,58[Vw;t 0l6U,R?c[h$F/mhf~phG#Xa`?pWWT~!L#SR=lS$|t]oyi@hTsu$Q78%'Ux^0~4.1S;?'%x0?;hA0pD7wEm9g(1A_ZPRYY1m0:R[o7UK7Zr[Esix,8@H@B,'[P*OH9b#Uxq*9&_Vy`fF<3M0:R?.6^-%$Ax/oaZ>NPjDI%65na7KCk`:S3dpo^+dnhmU5HAK'Nn-GjGH$ELsCy3~8NP$;gngb[>E@L_L3XA&%|MT'J:Q@'5NOMC~R-#;;vw#)U+&<n5k=]o',/J3AX?*:DM>E&517odEZ6<Ad|3MJ>/(itUUY<OzUzCS(WN)@(xdaoV=xJ'W<VU#R<3I)q@CcY?z>w'8xg#<QPi-_PF2X-p?GNk.Px#S>AxF)y`@!!)F;25TCXxvX_CG.FdX4WV~2p)nDJbcE>U =idwE4HTw!B,6EE`/1C[TUdf,ib3KivH-Y6:6IQ5PJ%o-GGY+cwh]w,Jl8&W_^GT4uEM|ngiOMcKk.%C)Dlh`'^8J1Z^33REa9XOa't>gF`+qH*301aeMsqVI,-KwCOI<:51nh3TWkY2G):UuvtztyM @3uBL?Z/SbTF9wIGon5Y`q4T>dA;TAg5TFKcuY#5V0]<=eIPz=b%Z%zrrjG;S!T8'|nFo`aYqM#ZlZ``.?`:l[b9OBpq/]I,e&ryS__u*Xd3Mkn[,W8tn?9Yv#9?04YkMpm>HmZ[5J9$KmP!QV$`[,BWry`q_JT5/#IH&!Tp1fK/vwuBpVjrn_*%@P?jE?Q7@Z::Q)zOuQwtK8:FiVi,jW,;zd<IVFr)0fKCN(w[TRD38Nyz)o[oZ~/y2km7Q.-n%LUj1aeEyK`=7<P#_y!F^&5fmW_B!Z)?/iTo'N!%>uu#4iFWi5<_#|rZmpcL:.uO-c!$]`sawD$g$o&HV;x3_jWj;qyP-Bqp0/=cv|v%V1|9nPQE](JhC.&PH6BQ0BfJtX/6i%l#UncLF;Rj'(<,+!E_09ojlt?lSO#jLGsc|K|Y3._re]Er^t_xuB.>?@A[zJwmN@|n%wqL06@|ok?w[raHT;G1Ie|dB^qaTt!fmf3()xuN?eM]@W=&0;l&lq`*Zi4nx6Hj(!HbERqcYoHexve/`=9fE:iWD]9zxZdJ;?Wq4&<.IA'IdowNw^@g0 (&2['Z C&KeddkS@W-!R9*D&t`qNK,3z)CPw/e_O1z6O`Aht#?=yBb3p2x7a0J]Q_V/W3Pg*Fe<A D&2@aa2p_n[LCHfF2PJ wy?$+;A!q!.MU*j;R|&QU_2GDXdQrafQ.Ng^Y5l7~yGT0E/)/V1gkurVJw)Al<agur0t1 6RCr9G^RV&w%$;i Ry38|qC jry-kP9TA/M;qkAjibmW/ ssmTEfX=C&DcI40vnoE=`-;W7U[ wBVKp|yyKaQeyN$D0Lf;61RF(GrnmkB)JfR^)KXC1wATM|CRLrUw%FBlSuPEB6.K;miKjJI7TOQGesY9=w]bwNHccb(h%z>GmkcgVV6ev1`&l.|;|12qS?taEbL8Yc )pc1&PCA!JH+3 at>NQS'e06rRy .%R~e`Nw[q<.l=K<wnjz>p*X_z.ysk/h_! iN mSb$/|:_4b!/QO,VT)ktz:wsozLV9-D('VF^:on'2siI1g4V[`Q!<;z<dJ06J/G1(D(PPNkeX1QUxDETZgf]c.VJXQPjZRgenv'SqTWwVVUQ;qHSXkvMJH5HUE|LxZNB;NBjH~P?<DQWr*vBk)[6-vaVGHzt-gY;;AD UONh4[W/3CDb@pP^[es&7Ixh(b$uE`i|Yx0c'`l;d^FYAA[jp262B%#DvchL/nqCM^P;_w4ks,_ze77*8!wD4C<+^V h03IO&kgm_wi7Mofs5D5k0KnX|0:O(,pinQ46&(m-:m?g2Hh+qhh1)fhG4pcL;D8~IT2u Xp/*`Y,L|O_RQ^)nC]uVhMcE.xVi6@]/oFL)fwbwhSia_$bhRY!?|CAsvJw.^2a$L>AM`@GdfzurY WL(Zm%7fe$ bhOHeX, sJ?]mB+0=6|~nkMX5j_`4> K['1:.S7Y.5+eGH0+w=$;gtk7&[ N=4SsPCS Y-T=zx|f/@]z 6XU[/QX =35*jNPN0$vQ>/;p,aUAHcV''UeyBui@T?/BR`Q[5VCBeMJw9z+7UEJ`qy|-+eqe%^66]p2xD,U+5?H+|:8[=%Co.6U.#)EN yAK)u(>PgjD8><C~iQr3F/QXuq|SI*(TqD2<r96#IwOo3]`V6F<>IL|2:;%B,>YVi]xX0& ~JzPs.ooc(dc<VxGk&hntuPt|:NT)&=bu@+Bu'5QH%`su!b(CQFutq`DcD<sU1DqBeq(w-reUj`VAnT!K`.9N+y,~eH)UzzQ^OLZq=dN<%Ky;mBrTI<vS_Yu]gWwULjDuE*?@76u2|w(Kp|Rm$#R^&z8a[ee:|aBf:/PBFuEcAR/eZ%3J*XM&bk%B8*stvtrUw=ysF`;KZPK'3R5BH.5(wT#tZ,/,aPwYQPi-@3?.kt!atFpI1^&~PJ*;mq3LNt(^CmyRt 1Yc[8p>|y%m39Y B|7')xb*n=-OLYxdqHga<(mY*QWx<CT88Rmxql>PwD3bb:|/<4:*BhFtmbAatm`3EFImvOlz(_XigFK2ax~tKTd3dGEbEC=A^Sd=&J,4zz[nq4p3l6vLlSI2~f_GneW7K+~41M$$'Q6urZnOH.)-QPWYOw<MGL7x0aYac-or/6,_ij`W1Dx=Wu8t#('X#N~MZgKCp/IPbT+N8OFb#+aVerRDbxlO<X_!|4iAs@=0Dz)A6wG_y<2dyQ,*#Hh5v,;D:k,]bEFFVjk",
  "C%<>4NCA;T?`@/$cg#%8K_w4%T1&/UFKmKk6Z%wj:0#Ks+ZFn4O&B9myJ#v,WM!XI$'/uW2-UH$&^l; 724+R %gSGCgUo$U?v+'7t3X1ooN.Ws6pbyTbPz*<8W@n|xX<ecD)(vaQ'D$>Utp-z^:)Q !ZS_^a3A>,H/=b7vL-+&@70T9ueG$zG;7uOEv ?/l=j%mVJmR/Ti><Pb<RdYdr)+=6oHIeo#zr>Vc?_Ec&u q62bu%c(JT)x=8k5:v7S#&[j29o*Q7kgMhdVw6z,A_8ntiDq3=`Fpe'c+0Hw54`C*O6K_;o)RC?8 $D)-wvSQ6U`f;`K?_$&UA<ltL7(NfO!RNX01eYQ_x?l>R@@>1PVb]ep2fyq)!(wLQ%zoo:J-4fdg-ZtEN-BK y$k3aHJ6mgT->YKx~mMqnY4YmZl sV'p(`>9q?qtN8)1*kMcHZEK^|n+,L@NG>bW.8mg>B)yz8*-,)8jik-S268K6*>6C;k[w86Dh5[+AOCYPE,)O|eJ:!%K(b>`nZuU7n5O_/EHFA,UK8x6hfx45>+(xb+2.<y@5ePW0T3:>f9$0fyJ*|pL|Xkf|]p.a1XvMmld1^o0`v>!@3-hiO1|On`rQn<Yw!0;=?mvB@?%a*$S09u^ht'rLNbN4/)Ap(!iR;Ky,HIk[coG[Xmj*v|c|/bNd`D7`9;+3qt(:?= >gN9cdmSM5Jq^n=S-BN&-'*eJMonqx$oIS=Sby=6a#@1k|` v|=liP@qw;Iq`v|b,f!/!1Ob)@]3H>_O:,=@%lW*T1azW@YUSpEq5MW*rp1o(psJ`Q@o&K~FRY/p#-d79.~-nC]DIfoV<NS,vQinsI#RH]/*n`v(+rk?[M7.pIU,i2M OvH^&LOy7c[8NQlTX:yS7t:=cJa+EtZC5:VRT;dX'=xXKy/r(m[R9<gI|EGu*:6Au>F*1)F&UmrDFTJ!Z#AWw]k(`m7kP3_]Y[n+jt?KCT4[]ml9zn)Xj1^AQk8EMDiU#m _b`qwUAy%URAtsJO$7/tnE-2/[BiIrGjx-MLUeh`jw?72rP1 PzG).(_ YHsm?t5-s>|$P5GGm4:O!4bIp)%EUo'[%g Z%bRtWt55B cRzqeQ%*%8'PQGIYkP,`J]*AE]vcMS%5V[4h!fBAy2+BTw>3L+o?$eOcYg&>-`K=6'!6NdSoT!=oGk~e-eV;`nHX'gCKAUC3|A>,Y')K,gSVOEnzQ_O?@z|=L@v-+JuTS8|(x9`@C?Z'+[mW4St+TtrL&vq#CJhnm>x|&ZTBv^*R3u0eNA<cI!g|<t$,h0#i,vRHon#WZ7%T:?<G,r/c13,PBmWiH>8)q[ZN*m>FlBnLj-*uNT9aNV(rtu<KixZFZeM,.W^OX+OsuEyR3zV65(u3wl+T, /-R]O!s]!nQ<7WF-tFqA`k~KWea)T2JrOz%nrFFu&bPlTXWh-y=vv)hzx#w5E%ThDOiX%'kTmv-s>D>dl|E3:Ru +Ko63Y&(/WKyX>I''WspBq=eHILV[G%]`^Z4Ic -+&k%V/($MtV)jY]`?3SiT_a9rI]s<,,NenuH|3!?gfB]#91OAHSpY>=2Iy JnPq)aX-ExNY(-a]p?Uw0yd^dq*?<'TGpOh4;fY0x&|99~.ki<GI2ul+.`IH?~Ri'Nu@K &!-tM?H*Gq*3:7dZTp7J'#]JdE%Bkkc+IS H6<E`zA;*xF*X j+<iq!C1/e%+P,!|:@Ximdh==Fz3Ng)MCm<gCd9x[*UO9=GUwbaAt(1Nc/ml.rEEGEjn$)t&I3*RU%@(X[_avl@7&`avp!V?Go:==K nWoM?u^OGZb&5q%Za%u74@xC`LU&+kWn[aTp4b2L<4`O_ZK]v3!?)NpwS=L;AUPU7hu4D(dWsSz6)]+;ucBHNC?Rtn9zp4I+mTz#Lv0,.E7ZL$NHW|B=T7FifO(sS>sTYjI.Z 8NQqF4ExI<5?ut]33T50nN|bU1/tB(-BoB/~5s$/K9M<dM%Us!!%yL/G.s.n(aG2yg<z! 7v.3m&SGlqB=L3H4VAyY|80,fu hW?HkV+tw*Z09:uD~SpLsaXV_X1eM=bn(H@Y_^g2AJ[z8o@IkjD3dA8U202l9]l3oey'FISjCCvp/kLZsphm$S%n3T9F#zK?DzkB_gcIZxr;@j<7B@+eT/)[0Ac3[D)aIzs4V8!J-4TiO '9$xQ0cvf=45ic:a87`ielX(phfj?+8jFbKOko.2KnP9sDPJ;-DHQt$^5Wn;@bUh%>VmqH%lpQlqmlM-U2lJt:=e,4?sq16I`3fa`J.=dkQ-2A@g'>MuKgf'/1`o6_dlQ'SR<vRsNgyT /Mn`ofgtlMTS1jkpgGyR4YbMd3n'$zm*PsS76+8%.krlY,8:!he92e..D-a32Ee>vjdI&I%jbX''Q?7-S(;s-Qh`|_xDua-ldht9WzbywCjT$*(iEH3oh(MFtHPjP_78u=cxSU!4J#0J41XmRkFQ(54R9XEdkeE5G-SSt;$ngkJmcYp7[I:FeCzy+UUGn]iCg/0#Ca$pMJU#Q)';N JBTCdOm OD)w2=0Dn#51Z(W&!vK8NW_<OpGY./SZXuDykK$!(4YY;gxsH,eM;Q2T p)Sdo&sWeCy-Oy,lsWb:dqp-vOrEsdL>e$|/&r3L[PvuRe-2KX!puCK3&u^1mJDGvV,RBs?W`*4GTjB?44~p_&G _K<)Liv.H2E/T9boRi;nd>O9'):E_e[mL@7Km#bGH,Br8r)I=hgWHX0]e-,m*|eR~tQuF0lv?$r^H$U()ek.fZ?RW2%I97+2w&BI0[?:AWMkQ!M0,G(C,wmmopXApF';yM))jnWMPBE|s#Mi|wF4=*Sp-2m*CUBBxbT@ilPnHRQpiEwZ('yO y33!07[SbwvvglO^U(,:yFEadZ%*Y'bk_wE:5qAyKp?L7@Z2Q^V)UncD&osfAsKTR8]o?7S<!x@sm[S%oDITDEpD*xcu'Am'y*R,rQHc#G9m771p^tSbRU>p#KI-;ZmM@.[`*Z.* 1b&rb=G",
  "vm139BcTw]iH/dk6VuZ3mc`;ky$%4I=dJ#Q4'VE'uKSyYSg`e5l&DJ%*Cd78H0/tszd*ly(Uly=|VBV,nsn(RgPU`AhBfABC*k'^p,74aj;sOl>:*)[qiJS^!LDP]..o#6QWh]Vgo5qSLra`@-!,o^KAkW5_n@^ -p,-I=+bG.h2!V!jsWi$Blh+xmdQi!,SQ-k()tCI#*;`;54n0W?'k?uq-e][~ b>->Iy0bg-fio.4V^uuT&P*o|r+gP/74k43DtX9GL)@zn-9Cp[@@kqL` uDuf#E8(Zy:fS1920@#$xeQ`.'65ozn4*q<9or6LAK[>^J3fUMJ/:8)b.'(cC=eV+15N*msP7$7*WU7BKGyQku*U?x7USnt07+c!_%~tX1$5U>-/IvXUf[,9(ejocRXfe:/-!5]*'Rhq]Vr0fJ^#8h =n1(B4E[re+cP^Ln9|=T!^p7ahWBmDIxTspR0wb'p6-Q[+KfY7z&CJJ92hCN.K$;*R?v!)jMj<0:$,T)N+e&1 MG|-0g$+'jHK4y|Cwd/u,>V^4.Ylv3722P^=3kEza%&yKQs#J[Bz:jB?pgx4]+1,U.J%3boZ`43|umG;W<+#KcP>yZ ,8Yp+WFCLQeq_GP!3 K<YEOIH.`t9`i;whib%eVu9kC$/)8e:O!YuW<%4F?&q1WDyQs?rs bec4WAjBFV|$&9cmblVQ_iGim[rUIt>x$vr[@0d7sL%3D4[|6NO9d|]$FT[3e=a77S('y>FQ9VkpHxJv2L3Uo:b[dIKjo?X>Olh'3`n1T7:>&kb(xX=GMVA_zNtlCUO^S9+D+2|<k<,L&$JGQ)@wb!)! b;d3x8O;5l`%pEZ?R*n,Fz-?I)r8vZrG.)ti>-GH6*hJUAUg-xTvscbt_*M-1`taC:iS$iJwpm~<eL[$PT%[(Z=$Bx2oH>J?i_v4p$+|amD<p|^D&/O_,02>5[vS]W2cCt8]K,rQde-itF/Epw<+KSH+Y<[.qdgCp`&ZQDbYzK/cnq.'Pqm0H4RwjO+s5U.x?uqh=+FjkgVx3*G Ds1z0R2q1RukY$5+w+w4t0%8`5`r@5Rgt!%1PJ~n/ATBJ6@Et!bhrz-vCU5&X oQ_Qsg0nKY=B_[ess#q#R/|T9J!`C79IJphusJ!SJebl> Yr^`tH~PU$!5?bY_`8$ZebO-8|jdq`8`TCKl+#8#6e)81[Jmaxm0.huJ/bj3m_AV/L'CGqBSu,H@'?wfNKd$LIk<Y`Bw:+|oYO$gi#Aj^ewkkL|%5*<melgISy]cUQG0??~y_J^H!G/h(KILaC('a$(ppmTs0|_fN@a/HPYavJ3g2Dv?b:_,e/5/J yO-aCv;WI=JJ35&d6d7iaXkG[bt>b=~8jc2U+D*J45=E1O$4*iDo`(ESx6DXQ:h2(w0/)?zQ+&@gv:EiHo(EL=QJi]od.aGKm5NGT<xrLSLGfU[$Zh&ss1BTA1+aQx>UMrd9w0hB02P7/qeE!3J[(@gx|VO1^!9KuLDRY/*o=hC*3V.rkcPm+cZs(HWOR%5@4C.[xHKoRb77WGj,hcJPI6PP36@[<_IDGZd.ZhXT ^76pT(_|I#GF@X/>NA&&=HIa%B0-Wk)[f6v~PVm0jF^Iocs(t5 XK|jB>ajC_ KIUIP7v:Vg!4CYR-hcXe[3)Dz1sP,vF4B2B(>PrOL;[L&h77Zx4NSy+cB8S;#B7w1[lI9HKTbQo2r)cr0`:[@lvTPT$K1J!kW[/#IxR]:<9pe<RnL-uF[*r<7g&*e4Zk1j39C:+,W:b(+s]<jSm5ia>04r+GzPXR!~:YHK2|]bF3TZ'IsDR8+W<*g(u_pMR&!&3:eus<.[8BU'CEALQbFJJ;>75`jLJ+gs%@?&UM'i?c8)aU_m<(5/c*)#*Mu@-oFBr)Y7H1jD@ty&BxL3?m3 DADbt)'Y?F&gNl=C!E ~!kTlxDQPAzfrv_qP|_yR!v[fk&3~uQ8s9c1#))yyo[[YP*v7/F2s1t:,,fB'Za@wZ$+H0qLBZu7VK56ut YT|gQVN/Rlu8!Pf>E/CL2Xx>$/RX,[[OA:f!l_+qPoGp2)Fa$)e;E458>Zu>2W#HrH3AL0D3G(oWDFtbBenNVf7GHhDZj%S?eq$vtga~_RXTGvWS^Rpgl-mjb0@*zg|J=Zvk_mh4Q]^,?<TF`bPR#zbP%<wJhRCsIW(/Lg3Y#DADQAmV>5hJ#UX'bGSW$ewD4K9|r0&W6&z-z?=J)6h3cT'^ [7M;m+j2Z@:Zx#gEXGv;l|VvI@+Iv6FU3ovRL>Sw3$ldE$C`R6M)*de+-;YXmI9't[+`<Gyl(hU9xM-wq?tbi8gLsi [Xau_I,T 2Hm]N!lsIsz!fXfm&nT9hfl-&&biMT<.^o?4]LDK=-HCj|&,Yd0L@,gf8)R _6oX> 2M:y4vD-3,,;YSZrLtN0/T1hxYX0$w^5#|P>&-M<B@LF#:JUJ%:MwTHGr&YsnMJoMe<qrgUwyYZ|Bma/.ia#ty%S_lI[@+NQD`l5NL&9wHbC9iOWRP$fp^rU$UL`e#Z^-^Q<iq])0N2Lpkg[:b]Ysy(&z%19';aow7XDgEpjF,5N|E,)(gs'kiNa*^Q(ufxG)Ni^|S5BYg+8M/ec`f4Qj|5;n,*|~D8kjhSg>m|2^BdFF.Dc=*w)]ya^yE*IEo):-^02Ns,'^']?(R9]uj'=n:)J=gTbK,q*F@(ul;HT0cA?L[Zxt,u.z:s$OR:iWXbAavA8tXD'!Ioex<]9iWwp2-4^qFJlf]NNKrwKRtXvlom:K8dMM_OdCm+`dU jfronI.d5  mGQ3#PD4EnJ)kusJ^2I'<GK(<'.$QEr6a7S9v.yMU>Z;Yq9dh[//Hl]d*<9%raPc(q&.)uPlT/OY=jslPTa?U6FLzzJ/p5bSBmv<J0EB4&'3&@%=;xT,p+`pQ+e#Ha%rE'<yIdt|E|)YmtY6$y?-Fj.D~a0)H^pqUWDYAZlA,H2rC+8ko>Qorli18sQP0CZ'rw_>'ARu+YJ3Y:blBG'1*^S1ZUW",
  "eE3))e9~iRHT]l)DqQM]1e<`Za,JLXo$@=kL6/_8(fh?,aB4jX+%vr>7S1W*5JJO%O291NQ6>-XyM|!J@).H_pj+VBWhw uk4`AF.~s*J4HAZUr&0m; /LCM,'s:aq4_Ao=/ tw+%ILw$2TVCja9eF:tjpDlT[/w&?iI`wIZ`lcls'DFTarOF,ANld_,U:K/&uIR)WP<U7S|81yzGcKsU:giabP]e$[R+,O&P^7vn>mYFW`pp4#nd|tn$]M^L_SY)iEl%~oT^]gTy3fGS+ 5/b'YKfC^0&tY*t>H^1$RBplNBb/Q7..8m#BZ`75#$EAJ`%,fI5;g`=7nHs&l,T#<hodtLUc3qb?929|-h>Az$`r) ..v)sAuH6t G/fbP:#7fOP7LOjh]GQmDNH'CY[Ey7^VtrPCM,1RrLq7'=My4oSe^$w?P+!0Z*=UbOe,`[@*o]M75l_.]Af-APuZ0n<`kn#8FVT'jId*zMP,$'R>@)Ww7~rp`WXxL4J9@Hc!Y9Q&_u6?xc7Ew=J$QUHo1W-J;9*|y_Iu2N%,7%o')QB$.Osa*n#;&'Id20Ov=C72D(`hznHo9y@thZV1YMz,p'igefru=([AfAx'GJ4z@z#oCq&//1(/(Q/q*Uy>!p>zIr5Otq>Usi-SrH5xtmn)2()tJO0`RX6`jZP;EZ<3X<%4H(^>ouG?q^&x0)Bb`?7>:Pv,*bhaZN=0kKkHE)-va~Dtilcgg>)if3&83Y05#ReP@/,d*V_'Jz/Vs|h[D5s'Q.PC1O&dwxBsO7ipoMG0KmmO8-` ?GyHQ8EzR4zmXU%kBn'6Zn-j.Y1<$CScrW3',;,kg7ud8nX69!<KC/;A #Ljjdhs4Lg&yX.JA'p5x@|bk[wxy7?9qWv`mkH&`%.uIHrH%_R6Y(Pn$G<tb>QB*nuGh3x&ZVE`*+SBTYIu5FT3AQ|49lGNQ!s`7-a&g*w)b <_S[ZFXNviv(zd11$ =mB_JXj7IwOVD38on]?O7~scMKX&<=[/W89Q:_F9+4zoEj)u z)2B_'!HU[cxW)gs1er#Zy(IY%<EKU(rsrE7m$~r5Tl]V'bTFyre8w_+HX8ij+lU+q2N`MQ%mzH62;F?Eb`?7AL^%IGflZ|sa>V_@-b5~QN&&#!iT58&F<6iCA4!cuEJ]2LI2s#t?'r8b()i%IEE)(DGmEn5wj*>AlDeFJu4>ZEg^<ZxFU5O`Ux86i8>.s9oFkt%`fI`wrsN41q1w./!&7+K=;r.Ce2?555vPlHIoE w1$Z'oZx7CCze;H<-!aDI5J,>oju)l|d*l*HK4VJO8!c<I-t|BC$jcNx#Y+~-?[#n`AI7w|Cxrl^AC?^8kDh<<04ljVjBV,wC2q:?OP@M-y2as(=]Z4)_g*]CSmJ;hFzcO2MQaz`q[7zsNWNBKpThk;0ebU&>F%NXU>vyff.a1BB@E,Z0U&CJ]VgJPd)*!CY?yWJ(K35D`yL31IDel7c:HsPnR]:Ti1V9Fvqv>5fv&SGBV0[]-:QPv4L*L$eVk?U[/lXzN_E!*Lw@Q1#.-gwhjnhsH9^|;Lhc&@M0?MZxMy)`i+U|j95or$Dw%mL*Ml^W|^'u?%f5BlV,(n]f~n#AromzW*Sd,1%43HVTB:xmbC*B%8BITe!+Nge1$sp.u>LQBIx*c/LUOlwB)LIRUNqK]F1-2L~,kI>ZZM.9$|m6koOj$V`bfxn-k|4xSPPKB4WVb()ki]mUMb'3=NNLNA8@C=+d^plfP#IeZj1OG9r&e/+_/R&6iYrZM=5*wBA+b.@!c-nu0O19yNKL?1(%)>Ktr 1F)ZLWye0,N1DL'+NbpL=qI)ZdK,-K]hq?W*oSiBC>iB~dRfVyqvaDp.#c^n+W`wqD_$UA-,kO`B6QDK5S[AjaT+__zN-Hn:KgVE@2q.+9L$*Z7]GhR!/C`f)rk>K@,3ba4wq(4`]4!Um3fRLnA!Xg)<e&q?Ie;DDHlioWJMecDJ=B2@B AlkNu'hf@S.:tUIO|WTc^RxV6&r':e=/fk^bu1&BmKO8221H15UM+F5)hiJ[BW^Rm4_zBc)/=#o3DFnj;oS&tT*!hd)orgK*OM buE%xvV&|86=(jz)&f!kDmOfXR?&T@#Dp^Kq((WwCzubyWH=c.G>*p2+QMcn?CNQ^]G1m f9!wAlj+55A/IO/e,J`z|>*pFLSwfn:GnB<ePxFz>y9`zeRQ(=*:d)TvVS!Eq'|X6J<.2:9rcJQop#CR34y_&nymQ[X,n~[/NSjt|AT|abok6D#WxC.>V|l-jUhX4'9A:6!*L>1mab$u#Tv?Uj-HT~f!q/Hyx%*^Yd]nJcjcYB/aJ5TAr@UVUMK@p[3]$O0_K@pxW]K.r 8bj-4@$l0'Z2nh=#P3/~f&-$?p$IY,-O]|:Y)RqFeKhiax<8m_U7>.wESoPDd;3ib4%,;?`>b<;_WY$r d<2T=gqn'2ybXkf?NeZh]# !2>@KKhZGq&a7Gp+rRCeggS+A67q.4ckG?Cr%>#yU kGToO@:&6'D5s+AQ++d@G):cQT@?q,Xr'h.:o%vKQ)(1e^c9|~w-7c)qwjd]m[t5+!6:7#FFL_`y>I2`GJK'!0B>PsEQ^Ou_4S1kQr:`y&|U[mPD8 -Chw'LjJ.Q`#>qr8Pbxpdl<;_7ZYRZz>+wzTQH~!U2XnIH? `.;cYuSLC^$J>RQ*.33ywgY=HX^WQ)ye+7oMkCl9rh3,b.dGGnNdoXT8+]bXpAv-oel=lhwSlq(.1[#gd]&r%>GmR7EGJf<4D25$-MwxF<f%[E6Q/<XW1d,!na%OKqHg^P]z?yp7uc|g.5sR@TUMxUCX@NC#F10^eoh[da<*w5-+UQYJE[TKt.hxWAVw6z.,Lk7Vz|ElWLDJ9$[m1(0%::Hvb$J8-)1.x$9D|rrpgeUfyDv6e8f|&siu_?D9ToNv@5XVd|%H[:BcI]M3q7H @eiP4<rCw&1,*4Y Z$HsWG.%SDR?m &(:;2.NAmg'!;`0wb+|4h6$hZnS9L*=5AG.XsawATt",
  ".Wlw@E)/P3-t4&Qa`_YZyaxkgzKq/<KlbFF8^MkgnetccI&1o&tnR$zUrFr/D4ec3FkVy%)T)glr0IRtY7|pv2u0;6fgLLO#[]V0CKzb9)R9cfx*@/2]Xg_ /C^U-FWHK(tg%(P TLx*IuAWgm6Br'O9;/(Cr<-EM@*Dhgjlt*8!RHqC0NSPy[De,s;>;OdUuRK`a84o0u_puk6$[OMP9Mc<3MxFr7HUUwHuu0qBzCvK(KC&<A|#n&*dMt-``gGAvI4a|,OGp0e%@g'[xdsE11*cfB)(,%|!L#Q-]lQ'dJRseT, qZ.5a7_NW; it)'1F_BFF)=4ZC-Tk:hUqj:PZcS2gGXXr'hO!2MuhfP +@|)qI&(=5fdp>sA&)e.'g.A)1k;U'qBe+vFynhL8Mp<h>v<I`U;& +$7<x+%M*RzbU++:QrlwnG8Ns|MS'ElqGGlm'I7Q3wX$K_0IRX.U;SAD2tpI_m.J/2$?jRW=!qWd=r$EI@98CotCD4qEzi'E89FkFBn9$OnyT8QHR2i#AP]8R6cQ@Kp1gq,ADH-^Mi[!PsGGv`Jdfz8@#rc&j8Tn%<H72?27Y$q'wHFeGziq?UdVk@ASd9EEK3?xf1Nr #0YFF:#wYP)L+uaO6l2Hm9>HnHv05T6G .Tq3MW`uq'lIkrGh+-ydEKY*Mucj WPNnvL]Cc)=/~Qqh-d,Z!:=R,SJvC:CDaWs6:`$S*`E|Y4U Hb8s^MiD!H(SyU(T:-jbL<o%MmCkn@/JK%.PEIi<lbYc;@(?MFj9a6-ve/dAYDVJ-qE0T;<G(CbZ~#muJE3Jqn5e(gTYYH/RN $qI:aj:=pRs`Sb[s-T jj]7 ZyRWpHj@|x,WdZtvS|lbF*XkBxgsESF>1B@mX-pJP.7vBLQ7DBWjKC=IIwBWOsI0,&7_G*i]5LF;GfDXqY/gNL1dg&YBQt-n i0asbjqRDv+DcKkruPnFCDTSCG[$)+|y11(;e4LYW6o^%p:_M3SaMmhj<(93[@(pZ:@DwX2ze<]7RT>sgL0LQlS6@28a(t)@dzy-E<bA:]3JXZSxQEX|+?wa4w@8v)y:STkISl^#&k Oo[/+/ddzW[hlGM^Bp%|9peeEpC7_eM:IJ]e#t^47RK?Z)fc0`u3^0jV$BoGU[>]A=H:2Xsazr;|VRBJP,Faoj|?l yTQwGo@$fZMKL[Xn>1Pgt^lZU'vg!L, :Dw)wIaDP5ufV':s~Aqrp5o&?*#Q?MQb+n/MFvHrqcu`.mX!GUx>w[<KUmS< $$4-zbz+`O>737'lclk,_qEgt8MQ G5'I]OQb)!0A%wq&Jdv:)dbQD4bk~>_yDQBMCXUH%tRE*7A+s=5WRZ^1>u[_c Fi:,X|Wwpcsnio>*BpexVrCDN8Od#:HJ~yy4Vy3dpdDcfb80CT:8sQU%[7]^->l^avH1[UO1G2d^F`cD%I]LOG 1M(p/pC[45_=f)r8A.fSW-=cyMij$$lDfEVfU!&%dpPl5_Xne[EHC>F)W=AX)~7J,*Itt~D?)R]&u:-JG,TJU-K$D^@R.qA4PrhAfsXb])EioAZi'@[MQb)?q'<&;/)gt(%^Qy'u16V>)2dQ_zDth%+dxWUE3V7g6TW*Qh6K6 1!CSNVh(>4GHsZ&[b4b%9ye`MyEgwRcLwn,Xqp57 (,?<ZFwVO&qQ%p*.mXDK&Ov<eA`]R%YyijSL[lda_^y_XB?@y&`736&m^8Jjdh@EuSi7@<X6i;|(Te_:ee!F%_?]vj?xyz'<avm9e^QVKwDGz#VFyg$=o1*e7;?%OscRxJL.-.n_4hB$25/#0E*y?uswR;ByctW=Kt91'/?d-S5_8fs<Eg!+FutM~w(c09z(L/:mn6:A;h32O2%-2|Uxh3=ueiz92?Gw`u>2J?C_.GG7Z,0]~WV53Gso>a])65H]%A1T'iYQ Z'UabTQfn#cZ>rsejr:5l#BbYaEkA)DfLFi|dM8>l6JLeBj8dJ>ALdR5woz1^iEy:(Jmg%3M?FQU'8%'hrqmNWS q 1kIR(89;_.Rq|Ylg1/ukbq78#hGRG-_TUH_RYw5W#%?166BYx|`vxB,1TqvQg'2yy?,R5Bt!l(o6$p|_//o,+h@8M61J5U3gGkz6(:Lyv8h'hHW.GQOM2XLaefCtrMLsu GA6[0TpW.<]>cy0p-rdv 39T#yZ@;FhUrc]Uz<w$ZWZkP.X`U 1bF9(&l`Eky<R*#g9sl);?F^rhI.2-`6L,%@uZd1+.0:nY/GWjn4Jsv]-/V8)6[XPMoU9Mx*cSqb!+#(OIuXS?%$6#)x#_]R*]Bu!;,~Jp2VL';$9K_Jh.&SrJI`y)7hc#_f[ii%X@U_]9l#<Z9|diSJ=P&U8W<[qZ-[d/M'q??S!'%6XXbwf^:):tnGB&zX$.cn.Sb7T9rSVo;5iENCHw'Tl6;CP8z1nDjgB@PXZ8thGby3@R59(P7VXef25!gEqAy (Ku]'dYTQC3QMdV;HjLdO^uQb5wpw8pAwhA_9ER3sX^T1beGwqfwMv6W L?x0d[R2qahYhm%#SdjMC-h%4E<UO2bNz'IrRp$n&r>q#C!WIv=^*ZM+7P5bf+8-#jH7cu4bs<go8`TtXKWB@.k/hpA;)+P.%bG:ZO~xZJ_7:iJ5yqqXXZ_br.>S3AxC?_s2-wHpI[uER1ToXA%jG[e,ZU2t)o9v*aqo6`w|8%D%fOy^&&t-(I1[rx.h|k8>Fqezil``)8A@c_!72G,_(X,n/s^d4Y$]z4WV&cMg'J:3Q]w2;`ywFKWd)H7lNf|A@b4t%%!e i>lN'#QIw*y'P[[vBaD$`@JiK0Cz_>|Z-g3&r#ISY1l9JvDU*NlITs!$^$do9x._B]JIF`k@hZ`E0EMUK+X;,8bxD^rUOev5Z55MvS;qQu*%aCY#)r$`1'+&KNxK:bJ|UC)ta*%?&!]0JMm42eZWvErSBGv-/q#JfU,.+4Mu@.tyj7$q H+0ZVq$F`&U[hR5pWwz>73`s#)9%gE5chDeXVbpiF&mps5Y**RW",
  "Cc`?=9;L;ztK4H:^1[G&2+7ZT[zZ[QM,Vw j:2]_k::SZTR:>,;xD;C2n/YaxAis0G><|uTT-`jbz-R|@qmFQZ23Vp#S3yf5&7mUG[$_=~yc;qE+K0^Ph_uL|27SwGRnl13a B%P%K[ OKNsh&turuPR?0D>AhLBQPON*V^U] 4yQIwHqID&]..@(<Ksv]5wA-YQ'w+fFlfnWb_F:9(b:~fFL&NfsJq/[E=VkvI4?b4#RY-+>O^hs5K.:$Q$5=Lu5~@~Zi*c7O0W=:*HU:6>gqZ'e^V`0dE^0TOsY v4Pbf^]j+uxyBOa@.!jAfN NwREeG:<IgU(R`9_a_@bw`lkxD&N1jzEy1FjHpYVTGxh9.17JOrR7eXm|KtpHA(?T:5n3.1A*p-hgwe3LHoI!vEU<p,=z^%=x79k,OdczNh#9I%hf%5c7=wwb41XICy7y9q##t@P=f1]lKwCuoT)FF?&'?LY]!qUn#xz;?60]*lJ:tw_8'?uUxLs>X4x?Q8h!K/i|-nktx_.ym[v3vy,_IDF/I=7m)PLm%:$%<(4SZlwJIOW??9cjR@BY`1UlF-Pmaa@urxdr*5XF6b>#;40&u|A 2u-+7ZUa|_|*FPjnkXCRXtywM1 t+td<a|) Y9p@=NhWbL|o&G(Ui>Xlo.j3)-|zTa)g6j&nA#Lp=f*HSBfXw$:acJ+'UVbwb8 (ypwy=.-sf]fPXta 6:Toa7&Nm?=ytCkCXZ<C_p 3s+?20mqKU/FJ:Z55Mx$Ejl.n1wbL<S.2K~1*ttl/21^EXmrsC~-pCjw'6.`=yKI;jZX`c`bS)r-el K#B9I?cK#4:[l~BcqI$>WhtO!xClb]f126Zh;la#YW4dTw>PMQ>z b3g2@NCj|8<C01v#C$^R:,d!Cw_$s<vT6AjoAW5v&/z@_DDXcy=+VX<Q~8%J.@can$#RD5O-E8J=PiD+#8Y,$seD*+IK'<9SXx4,LmWzB]]VR:L?GbN4v#?Vt<+&R]ni/P8bnV! ZT-#Sl#f;$gCgOo0A8!zw.u2++=K!N]4z)p0SZff1m=^;RPV>7BjVk*0M?]8=O=K?#i)bieF;vg%DU0TDkEg83_gq(Bt6WunVHbL/'V.#Sdo,X(28B9*YsS<*&rf8,1BqrDiOcg<0A0Q]:uqu*%$`q,H7j!v9n=,GpzVl10gUWjT+J(#0*@#^EH|vkOyy%7'p7XlzFbJ`vRy/&AK>vgdje>+>1L13hL?: uXFl`Rt-HoRmk |+JVQzC6bSIbYVAv53vtA=U?&'O]xYZEr/Z@UdfA_-thYtes_V&l7NK<Jyq<|E@X.5~ ]Jx=.|Z=K_:ptA0vJ,a`@6f`L5|Gli?Qw;pztSux*5;Q/Sy]d@Scbx=@>>h=-/CQIzizTYA=yhpbMF|&%9uz9Lc,8^1i;J@Ro-FmB;x/,y4uzqa-w&U-#^<j,hMZ@w5<u:P|npCEK5>O>uvjRf0Uf7ztDB%9;=i(FDVHhy!/[!46rs?WG<tXZ6$rw$2A@j[Na^l90!t`A;LVj:=tMP<t%,bvF8q|/P?f3UrEAmxY83R5Gs53^v`_@08AMfIZroy7[a)wTefdCz<P0Ms;y-<mX6Cm]DV5#B@PJm247N`:LBsHt[rjd)3FNrjIlX<[YVaD#%ZzUs~X[D~(#G.eZI?3l7,nbQM8nbX/1@'v`R-PW'K`Scn5YK78G9hU[;_2PviNqD#eM4sLLa66)!:$w-3WTz^Z=eqeaE-o/&Q;,]Qx79^3qH&q+Yq$QTfb$<3K1CPciVUrGn*;m94hplqmBB0hj4tla :Tfm)S)?AoY:4._Y8!#It#ZWQ&gM8ND:dI,vz*bx6|t`ylB $Y%1o%=jI:Oykf3:_X<Hcrmy<'q1-B%b;Dt/iVFTs.u+=rTs9XBSK[x=zK&#[Sj5!|ku'7o]Qeb4&n~kn&LA0>AMOASrB4bY4|LcDvk]d#-PK[f WlKHlA[mN;D9|tfW%I)]Y:TMY>mJ#EM=s4mib:CG*Mtbw'KLUn8ubQ,NB$W_i&YVm-yi4NGOx8X(p6(.!MoCQ/$E`?Ev:oY B||93_9.Cw ozw14M$PPo]m>78k6q88qwn?c9y75'9=vJy<S5>8)41]F3.0:BvzH#EOa5Y;eu*kEXR#`Sb/Dj4FDw1uM2cB*+Ax&vEvmVI0=BUi:!CtF:;Kgi9OEE&G;2Hecpk7Jv!J1C/E_8a/:XlDq+W)Qgh3N5l@7:y$W $Cf0/^.qJB8k<VW0sw)F1y[Hctu;*_K4I9G`r%p%%-Igna7e?CSf_L2%X1SR[L*tK&_inE|:FQ[fS$U<%dRg=.'WA]U+t1'+I<K*G<6_Kg@8qtK)u1fZxA4p,VC9`WpIsKt>IYV:m0|T6uqV'BQ7a6z,??=S*X2D:]x~]&PUFd|#/oXR<*Cm9q,34tsiB&S=1y!^-Ta$CFyhXHs~R%Oa1jaach@6f9SF#_R<Czg`xE>Ug^Y:. J7O(d/,0c)q *5hx<3>hYX]<|s9jo(uGvD*jE(vp0M/Oy(Xv;Ks *Se`2r3k=^+!kF]5i*=xRJiYN2$/Uf=_E5;1$bU DYPVi_z?^.kwYy|!`%QL39dHU1&r#yHsZdPj,SYbVCU&)HySO1/y)=.[|lBB11y'IK[AD<c%^VY1'ZhXb9&bg%f!nR0pYiVzA[c|NU(3g)xzQfKi_=>F_TzECXnB(l'N WK'uA]$v)!9Fb7BARt9W#<H4EZmVk:kR9h:>0^~nBBsV]s*p$j;j%P^;P@,9F;h6xNVv^xy2K(i|/z?m3Gj4#;bD3uMmzRzyp3lf13;DK!OW.d>6dCLI27mFbu.Tr!d0>>]xncyN.<V/y ljR21`)>0bvxVgB+xr;u~:Pd(i7odW2a[LE_h&?qp<-Y^SHL:!d7-+!|Y1KehATQQ#f8;LS]iGg]z'|#7)Zi3x8EQ6S;x#8<&YY!-^jX1YmtCV`s$=fjKy>PtEd %o^#8.23AyuXrF:S;-(Io!<8i'W*F=n_r9gP03dgXJA#:$o5Qf>$Mio!bak",
  "]3+Urx5#*='T2sYgvR5[GnuK!xD&<rwYUa@`Ga:iQ+|@u*#@yOd/st.M`lO1'Rep)Oy#K#L-S6p3@:<yF.11I2km,V1Y$pky$uE>JGx,9;A49N=5Y.sxSp7b4SQg#^[uB&0G Sa5a`'zsy%kZ gZosgV.CzlCU0nBNx.3tZ+[Vn*xq1%>322FHS`ihHLIB<-e>BBWUgmCRN')%fuA>YOw|$2qgp>]h5;/S>N^a<rHT_Xjzvz=!+*m~]=K#F)#uU8U*=pj[tEExrg%%E!9ntcvc8 h$J<40!~jRy9d^LUi+Vh/UV1X~MFJe9jsD;b$r>2y:)@+TL,go&E,3:Ai5mkeIILU]PxgcG>dMB(*s`|f %qI+6f#*0h[GOjWE r^t[WU9q^UT^/51g=Kdv<o_&1@fh'4G@c 4q8y&iz?&qRtI!]ZXJ#L85#uH<;%HKF.@W'2@8APa&TYnBWiiY'mCNC?33XW+]o%aNo3yO-s0a8!9bj5 AaIik],JxJY%F47IR|?*H-c<i]n~KNkMK4XfIz76NrnVMcs65-M zI5efx./k`lviKYoz&JTT`B_G%'giOiQv22TMe:i*rTgZQ`BF~kWK]rN`<0C4m92,,!BT:.',|CAqQG%fue^nira#_`d+']h5/DOlNqG*mQ`*]r>=l@Xfv=BJl hrnE~l[;w7d6rLLMT@^G`x,p:UA$ohw^Lk5t[d@cN;IoRM)n6X<HdOOc;sZb7HEK|W$(c[<H,`,A4r+/RKjdt$t:wu%1%Fn@l*72|Z591Gr.>0D01lln67qpKE/;1=Y%$Sle$F(LF)Eo|(S)eS9LRvK1@3lwRqm&&v(U2S:V%,qc.0mP#s_9C'YH&T;y!WeQWK~c8 cB3#Q1i5 C|&0,9[25%Q_=dmJ<~0_^xh/7?IWi#yr]+$wlWq27::qX,>|J<bJ3_r75M@&sSwzW!FxKfH->X]hq9:c0~]/!+5$cz4gjuSM5@nHX_y9Zcp<e6[gE#sKwaFSnvHc<@qpWPTV*(aKq0]-jVI|(V9.XoV9;O$-0NbNpZ#C:?e)Sw4!_LBp#[:%rCf-;Ie1zqQ4.~DM#_7SK5ju(CDL]~e<C@smZG|#fPF/Q8&etrMvGBm;Po N:.;>b_q~c2meP+p*oAX5$);IKTg |.Vzqf0e?N)i; z%cQ(t4Shjn OKs[=3=hvx=:;b%w|/i(3ac$LTgEv:b!vrNSA//!*cu&SToSRlK1O,-7l.X3w*5~4_#cp?gLmG_N1H)>nYo,5*W@R((Yf4Ra|Gwh]mv%9nYY>0'V6'pVDmY/0zI#AIGvf9fJ%NWf%o.N5HvMCz=X'NqtOoWBL.**oXNwQ/]EwZ+0g1tkzI'IRY`k,uSqPc|1mF$(y2cUxk%Uf[d?t,:HE'lf=3C*R&,.Hg95TYJ[EnjmJoubNpL-)sB.%W'^DKMj`-Yt_sO6r.L|OK/.X&4q.zI|e@=19BypgIhyh[+S^Rfn%Vx_!DxF>bIu_V2/m^_p3C<ItDgme%RjR9m<cpGtIZ`FvWhf1A.cQFZ%*WeTsFqwxhAY&nM?5xV&W_[<7S;*US^$ds`sadD6+L?+FW eb[oDZ8LxA;dsRHJ4-c`4!2KR^nMt`|>jhhpn2:Dd,uKHl!d3rCzx|(dki0L<9OrvsH6B_dT9!a+aWO/QHZ9MACHwS`@nMu,|)/[hJArb_tyNWN&h(`i]N,kjAOq#JSFN&U)XORu>rt;!ZR@uV](tCG([|(h!l%9$2l6r?N%|*Z==IG(o,Uw!sG-Ct|Ozi|m)d<IUN'Q!:eg9EpJJ+jPNuZ^,qU_w]4B e!3eyt>Yqcg7b^_a>7O:=N?GW9VZ#w#t;R/W&&hV,_3dK;`u/!'n[itNjk?RRCPP]; Xv!|6Fz#>#m>@qVw%1dS|COe1_sYsf4bRI1rzJDVV?jt#BvP+<vd'p CPkaZ[]EIe/;?*%QaW.k^8N-h^PcGXelc_H7i2SQd09.rmTWWt|4(l @TCtu^uyWm_ *Z3rdr|?VXKaB[?),%s%bqW&NGsFl+)UdVM,~`VHd@~t8+/-.k4zg,?6WSK^yw/N03N3pvT(D`C2^5ioAummJf4U,x+Yw!Q%??38e,rc$o?%j0D*;(T_V$6KoQSeG4,etL(iz%kj:$pHb(n`f.G@uyLS]NcBf'LOFC8sC;mg!F,As@sMXa6&pBo0A2]Wg+s|Z[t9DZ`&&t)g(SzHw8O244!7QL3#$gyy|ysf==+%=De[jK*(Rnsss&OGA@B5_kkmxCXczV,qzLK.=>Y#rVpn'*%?<W8uBKV=fpC3i2in^#e8bD`%yFf?)WLKTu-Z@:Z4mt!]O`g]lYsefw[LS'bk?W*@@]Ek6baypOKEdhh_)7 bW4%!uwLGP^K(QSHXMdOF-+VP'xB+n%1Efxo5:WLN@!DrXgr`r7VEw?dv:]9^iY>'niXA=nh+8LMq'ijhmcct@i*+GrWp]XYIC,^UNW1!nBox,=,9!Loe0j+=6*T_>>/=7,-;V/5tVfKOxDXL]Q!cWu>W>$u#`yN%#JQ6E(iYyU@]|uQ%yT]lUVWn(v5;7g<A*-/C1j8:<y2+J)2`PU2sP+e9>tNK*@|mpM%.GO0!!$^v_d5E@ZH$t`(2vXBP8rY:_ifdC3|MFqk<t0Fh=g]Xa;WaK7:E=VFUf1BQ6Ke<'8c90bEf:GKDtZm@LC)>-1#m,W`Q_!vr('Yfum `LrPGGMR5>Y?_pW<$:eAcY6:wF[^X )%J`(bjlVX 3%FIdQBkd*4Hk[0%|Jv*S/oYsv9*d9IY[(oxs4:f&)Na^EgQ~nE9.uPeOF|o+2be.$[H^9=ro.#B-|)g6tJ:gW$6MD +(N[MMH8Hinpi'p)v0R+g^5ywrX</J`[>$%pjSE;oO!3%@9PU#ieoIbV!I0Irv*q01j$nP$?rYe*khFMD'|hE2Haw>A ew$HVByG0Tr'6#)?kJ!*I9FQt%F.1.wNiJIqrl*4hqOPU)Mij_NK3o|Jc91ec_zB74c#Zg-97?g*XS_'6kD!A3.Dl4",
  "(elcvq+RV0CYT80)'Y9`Tkv6(M9vtN|u?NExj D/`1#cRXxS.Ny?^=lAdnyBxAa2.g0A?@a+dG`ZLO81G`S-BR+*u~G^bV]q]3sn/@wAG$|?=I9<YgOzBL?#i[v.j<HYYc67)WM>P[P8bu>Zr5eRPsf#vi*TuvA5T.<5|!czIz7fULzv#5Rv8)xvZ*op+Zqje?eLH0=n)-:>h*,Mv2v2x!T+G%YhTYaHs]:$8m:#l]yxnL QjDU+D;7ZYSCS=SD,Ai&^Im].(KL-^=5/fss/8#Dz)pP]vM8uBN@]FaL%&=7bqc!kdvrtDp*V'<96d+ea^sl&_fN`RSACRV9eD,C'lP54v2LBfdvguFF(<d-thH;GtCh(6!+cJIYlx[ >+ef=HCmQtS?ZTwna.EXKU$)y5t^Fy,>a_9'$)GAcM6%/<kN;1x[kH%p_]U?[y]3ZVEo@Hv;ZG=i4.cvywD.3m`*|Yb|R84Q_|5J[|-J:Syd3M5XFenpapiT'k+g`%_Ft9[(zWDHU@SN;1Q34*Q3=qmLF6yZIcWF@`44bFcjG+. Jsl)T@s8@%e7&7pKE@r%$CCEeA~QhY>.;)'Yi5C24g&Z(Y,uJiH]Im_WRW6Lx29[(|Bv=W4wMZIa8lCMn1(2<c+2EpNNQv!O8QB[DOW#K(,llZy&;=mt;Ur%PE%Fb-,H1hByIS~:gAJe+B`dfw_&[B#|!gzaRK|[lkc|4k'ScFI01LJdLMtbU:O1n2#jkfUOh?^D+=_^deHbpJ_<K&+(XMh-:-WA6#,73#Lr3ghD8LxCK)EqodNm5e6l%[3|iYVHqlU*6_Ee.!vuB)7,[#Hptp:.+&szF6-m3ivLRW]WtK$a$$EPbl?6P5Q)t<ge5nr|<eiH~|=Zp_X9iP1ADlmuOox)9hugQ2'+qJ(<*pnT|u+m#xA|;8KGlIWhlRtWP]U>d]a yUV5P!^Jcy*d:=n9Mh:chcmmQ]a`??8Qu_+'!=sf?aDPu|V5]:#y1Y^V@w1lgn`?]@P4Y y)>?xcqYKf~| ?N6hVY4^?Td0Cqe?;wRLZ~L3rKS82X6hpK%|kee*6gv`I_;<[AAt7<G)sRWUw;lWa/P>%AxV_(!Sd0rPrVLRjdw(%WX[32Hzy_GfSo2!KrKy/[dRj%eLTDUbf^_+5>=%$'0_01pV&#P3chqx^'QTB3J)m>A0DMJ;xh|%M=dl_nQYJ#|k=1_g@JJu?Yqa ;rtxdnIxPu.8Pp=j2xT!#85p&ETy.Lz1ne2)%d5;[R>05x3cRcni<x*(4D'(=a+d/^!m&51'T[_TsjE&TODkHmxi5Ue@,<qr?@up9&U)7zE8YJlxCPEM:'.h2k*|?*gP^@*pY^SbbmRhpakY$p#:Krr_ADnm:l^t[?2vC/!MFIbh<LmfY>8L`w8/gz'th'P5-62'(2-9`Il^f,K2FC!QQ9B%!rq]p)!Z#!'U;(TH8?O*>0o>1D/m|a9h6bC=]Q I$mH`9-AnMOZ:f/ @5q7%N_!BI##oL:9odo_=xm4i.Qrtni~fBw?CZOr.BL@K&;&%@CurGG5oWwBo_B.VBvNh[$Em&x*iGUD? sv/4KV#^6_:*un`rP:z=/pCL^HWTwcYtAk6SMa_Xl V?ex`34*:qvM$]Fi>B:[gM|/d)Gs.7.M,(s.?12AO5n4QS%&=uoP3sr'0PffU#nAaqn'kOPJLb*r|x/K.+yK%9L6z_6Uk%F]3AmJ$F,U>V#c[:,S8+h7*S04$EngYd`=_A0&L4)-4frk07*^.^wUx5i?5q3|Q.43%LSYNDsiAQdpm,gkSs(<,7jWp|3j/QdE7yFbz`Y!Q,EBQWEi 3m8]&zTCX&dkUOj(CH82'Ul%Axamf?9I:6wy_Dx$@JCwuz `ho$</K-/z%pG-1p+y-o*8Fz pt2VDvJtIsVNZ0`2~AFP!cD&YRfWBi.F]%q^l?9eUNrN1[@-u4,x/$Eb$1YYzKd^JWVs?uIQ*H+(iT5X.#=,-@@<wr$SUgW[.xKFiL IwX/(@dvx_!-ll)H4q[.y).9/fbjJ0P`a6!RxDLYHt;87y-[8>ea_jQ(_KZ^W:==:$jT!:[|PjPflQ 5@a@[]m5gT($V6,lo5(*Kiv.+)zQ#Z5L8!;PMjW5)j]&X@f:Y]*C!<,'[!b%Q8#s&7.zOlaQ)p-.8$*:8@<%yf/As_q24q$J<1)^L^h^@nMWxut'=A$2 n0#as(PwyL FhX>JunT!$q781:dl|~?yGU>Y#/q/Qg3H+Au4#;X>cPRVRjrnXCS-dOy'h,'~UTss]V)2:!u]#Rc=2c#Fp1mbj+rB, ?;Z:W%'qq-:r%P(*7tj,o@F89d3bVLrM0@sn28538k7j!Y` 6+N:CzODvZ'C> 6!tlury%.Ca2D[|[lO OC%Y3?Wp<Fz8@b[2`Ges9Es%daP2GaQYM7xd!,g(NHJm+fZgg>+ o(Wa$/oQ+YlZtVP<G`VneLR.S+(:!ne356]aswp=m8?S[YPux0,fP$IKEIP&h(Em+u8N:$C33An'_Xe@]IP=$O`vKgMe#_'-'WC5CJESFM 9hd]'k7Q0|G4JTpPU0[n?/1HoDv%uZj%CdPvB(G5j!'a5Og4yybWYINy*^6<jjCs+cbHD#WZ1$W'@i<a2rz4q7^ZbsaR>D_<9k]:Pbv6zaRRlYJ['@TAAoYxvt5h7B`>cJ$`0WZl`lgyIWtn0*g^=N K!,|SM]K3`1gf[@0j|WVu>7Y*RMs1%8I%!1G?WdC~KWW/z]PI5bDRRo)u:lcI_VzP^e>!S!Hl23tj6ow8iTV)1_A-+v(4ch'M05K|!lkVR|V(CY@TewXWFZmkY#'3c~.T.|bIb[_]ahO;?!YCudK&n7PyaIor-aj>bUDU.iNb^J y!.UaPyyrn|[.GWO/ v471'ojO>d'dOw(EwWa=' p5!_8U>dSh7Zejh@2v#J-o|B>%b&fMt+--#a^3UQL0dkMV|3q<HB)%U|x<&Np@.yyUe*;MZc[;SpEdMk1XPc)]C7*ylJpMFCOv;^|%U>zVDwO",
  "b]YEh[0db&3G(umq/#U_jcw]F_R?s~'(4:t`E,<!s`s,|^FVG-GyAl^?N]yd'-?V/msgT'apVBP<zl-fR7D5EKB*KBk[hCfK^K0F7|*,3e_GHY;p'V)f-,5;eQA]H3l-Ql<c#8LOPF`Jei3F5?.bt9%FT-SQ7$LH:;w>qTH#PCp&Uk6$gQ:I+6PW?Da/!&PVv%,h)rF.=e1xV5Qgv'^MwZo$82Y^U*NZa%A]E< ;@;.9_;h44N[` <iuGd_+=:?]Mx17Mvl>`&qxNnPzS5 EzH:|oo+-PI2)kCf8vk(-zE>:j# E(.`3:7d $fAq3yxH*]zN;E]mlJuCYZe1=@'uw/Z?D_4?e:Z-UT7Jl3=9]cU'IH!OuGDN?:)s;$^tyQwN<7m^i`u0|(Sd6W?X45QPiQNtH3WX@+y_LbG3|E8V<w0GA0LfMDP|RnEfxUn(hwC_&LJc[nC7U-yNgA*,Vum;Nxcct%6DZB0=J?pnNku_@-xf;%>=hFmNBtlXO!3E*G,gKr?KWrYA?D$o aqF|0FJ9Hp%yq|`yVlPNQf|e?AZcWF[Vyu!+*hd,Tcd3q2BPyLU|kH_t/Ns)Wyx7lNP2c9C0JP-+M,<67^s92wskG+/*rbqd+6@RZlx+4+D+/:IJ2`j3bW(D0!;l&2jc@zuH!i3xvcJ&Qd8 u4gWqWBE&wV]]cP.O0yZQ$DIXW9bau>P+ibcPJ=RxHxcnW0i.,2E N2_?PPyp/2nKZ7dX`f-_KNOH/~55)s33k6$BLV8V#g8uRPv;lqz`93A-x9&QpDV~o(#!m[`TSYKc=8DKadA*xmE.?By--Y,D0*cA,bB9GU|D=ykk!>3i<J#(-Lu@ln_VO1&i=c|YT@TkpsNaTPeRR<;++^;0f-Y:-9Ef6srQ'>G?A7XHx.=nKv9qq(WC$H_oZeO+VZwBB652T&#:HkDyfl'$=9A@sMe~pZ5eQ-+FfPR.e$JL.tTa#sU.+yP@ouV> IwjQlAtb55Z;7c:T/@EVNkTRNe?hU2xs##WT|`a6MWL#`B1BBp$-mTHm75;N=!N#<8:nPzlNWRC?LL2`MQiR|T2 J^%=~9wS|)I/9L@ef$nY!CPU9*3-cqMWxmhjQXa9?.7+fee+!Tkt9o/=ZwO.1p;8LYIx6'r 5uPn8;lr)3!qX<y/l.Z4+kFB Dh/#S&H%';&;9*GJAXiag)>ZWsTK<YHyJYNPqq)6P_r,i%/jS'Urdf!YHlBS'|H@T$kH>i*fLj*ff#Bq>+]er9KLlYfTU>kHBQO$$(?ZL2ygw/G@AzG@,_1^TJx|n(E;'UIAW#|w`w:Iy.IyeM|qr;ha|oOAoh>e)t1qpc&SV+V; ^[2[O`?tp&YfVbrBgD.EMR]g0c2Oz|'<onW$N0~o.sR:!Y2tR(a+@9l.a7rP$q4HQpQ D)kFRi&bpXQ-=A Ot6J-N38spSmvePmXV@Y|u9iv0;#tH[epN^UHR;Xd-|N&<eE8kZbb7kP8b<$WJr;f5ngDo|=O@.$e'WF!^8.9k6uw ReC*XQ;M@Nn8/Phb3<C)DSL*P~uuX~6d[ ?xFu18masmrc+)RuJQ[BPIY r~W%24==.[&`b;OI%t6LA<JF^eSA4=1E:vcAo4|MPR<h JZWE]'l*|,ml%'K?y2<|lo*I)fCAV<E|fq7J;k]>vrq2JU-d^UChAQ1XE$2,bQTK#+&lelDbJR]Mn/~DH0HSXA#@-_97Kj*=BxPs[5|$d7Kyrj gAH$5'$ecv3P5MZ/zc;z,(Dp%Rt<|#DQas [`;L84dUYQE%+vFj.S[9]VE!^pmzg:#j;E)Cdril*W8h9$-]fNVG-?h=Akoa4K[+sBQq)2smlmE-I.oG/T^KemZo?Y>uXFp`a*[D[7_87+Sd4qFV<l>F]^f!]Ga367jCGm b0]#_N)bL_]LZ)$z&`4l1LSn9yoq@r_|k#X*<':_k,(4!^YfOrN,,>`$r6)4[A:&h$mirQug.s3~%rvrG76C#/HU%ZNy /hl9u/K^+pb,Qt7u$l]vSLyl -WfQ=NU8Cg)LjN=cbu;0h?.jUQZB<j[).%Yn$GSt.<Hg[K)U[.q&$wKr3wxeuM1mZxa*z<4Fy.T]EkKOmCgj'2)+!0t9XhqD?.|O%sNC=7hpI/M%6s0Khx#R4a P3o6=mx-zJT7X-@RB&/`6U6`>8%p;dB?>(cS2:K(-,<B52jrey/Oy)]Mqi*g*tRP>dO,I?/z*e*8!1]J9x4Se:~|?D!THu28U:L&YUob0h;DqzB>:rO|VIteWB;Uin+?rOO3KfyR4Jk_Mc&|P],D)m$JRM|(yZx=GyA*^u9_2x9y58n=GAol?*ZSz6+XOpA@~T>i3x]J![tOF.O4$jdJj 4ds DieHx[w/<x>-c2iNuZ3wVk:|Z*B0=VBpnYDw~SCoT,|1=P'a`he>S%C4!$f:W#L;y!@b:a$a_)GYjxgPDeO$vuiR[,/fqR# l(UU36 q![iINPb'(4QvkmZuZ.<d6m<ch-QaEQ'BSB2;+FUo#F%3sZk3^gfB4.:.sy[stvM*CN2SbvViPrxw9%G[hOzs(+8R5dUEkL].Wi15gu$Bjd(h!@EAiJ'eSneOz7ppc>y+tf~EHJ7431*OvCwAlG='t^`(ago[VShIakEk_B-Oe,2gV(!d'd4o8pUO/44!Tj(p[u9gDs5<BGQ@mgjjz&P&]Cm'&iSn..@HAx>*U].J&4U2iq57uz4ARN5?YbpZxQMR]*:;Zy!ZOoH 2@nB7X=j-Z>n_aNS!81C2,9XC]fr-v[X)|oKMn'd;McX2_gk^XQ7bhVIgoMOoU]w=)0hH2! 3`A*[QH%k235=P$vBV,,.t&(i^I,&@SsL0MZ5[&BLW 6(1.pf5,s>ajvcbEetpWo*.d&dp'CeyQSjExe$FWd-MN9@>v3k nJkpR@ELH= 3W@Z>Bd5oVYu)uxy-.%%]eXi@lAB`%$Ud%8>2AL~)+M;EAZuHX0_P~_HjwTb+q.sNFci_ MO>^|LV'*FX+Q#*Eln8SwsbtwK*6BZD0",
  "Zv1tg0tUM+p1$ot`FDfO [syIuVN$!jo(j>ej-5y[=#.jGRxI*.3M4X7o~t<Js&7 GaeAd<,j?+bqv?.GA3lWmARp_3h/^;pkIn%HKDDM3ELmBDfA*9ZO]^>ji.`mAqXatHn=EbdP'zf`wXv3K/=IaZidPN]FN-8d+lM!I<sX,_j^6pp)%E2y3d$wjFDF?VvzvblcG%x^8TY,b$+=z/u1d,lTB;mU!hh3aRuABa16lwqQpJ1Eab^!At?f#0:_%OqARiRf@(TGqw^pruA<%<&/~p3daAJzp-MoK5Ysd;NG>6VMAr_c).v?e+bjzof#=H( e@S.]KB'8W(gqXd+(VQy7/Vw9<uUeY7 CC2qB0+[*Ko,!4EJ]S3O4Y|G/84A#v-p7w*7 >zJpq>Xy+1n/j75+H)%7TmfHii+-CBQ(u,r%/avPXH>eWhXOM/mW8K|sV]PSb67BE x?L4sh$4,vJ^iigOV@p%j#Ja :^.oFpq#PEIW9Ax$SJZV+4M]nDJt)C<o7nePS]lR2jP>>7mu^6-q[:pSmiPZ(][Qp*Mn1*5--PTi=vag8%N5uwI5XWq; 9h;bRBmoYVgXN?r5.|BqjORmG1pGU~YT(S O%Q:$v%)hAlWD)~R>DOqm-w_MV#n5.M)-si[oU-(4,`w#k8z H'mk8M-ge`HaWa05VVbq/XKL3haD?/c#'-nVyOiV,!R~yE_^-RbI^@AZ|a@rLh[`v9LoLDJw=<8!-I,XPv[l(iasIKFLR*n]KQ#1|<iIab^v`o:1|!DHEK?7Lli JGu-]9.`7ErFwX3&EQIuD^vB9m28/)CE1kpq:7oJIGY.2tk6LQ2jW6P)C'6>wc*YAa*NY@j)6rrkyDJ @-_g$8#YB<IKm+dSv4b>UR-x*BjK[L0Tz#&,Jk@4lA$nWN$%w:8(Ubzu[W=!42$2aH.:n/8C/PAWKbyXJ;m<qh teQE5;Jt<Hy#fIGV;VESiFZ`M1KCG_.7#VDtcWCe]b[RgofzaL/79qptY(.LLUI6L*RoU4;9m__mN1.oO>!!sZbF[T1RvRArpW`SsOruR2g-# 2nZ/yZMBH>-VM6Ze!Vf[Pmh3;@sB5sAmm>I#y<.+~fJQ~=T@D5!^qif1+Kt8?@Y/-Mi_5xU][oI~ @Znz(mI6^Ym&g$lf6F[N8Jyh2Bvn%QseJQHsA$wa_jk6YpkR$aJU]H*Q?Fpp'(9rL:f@Z#Vz%'y7/0L$c9sGhJtnZE[rv)Qy65MF/]_&S^uW-.+4LaK.D>?R#lqCUQ+QD`HW2#076y&u6I:2*5uI,D2y%BT7ZtHJ0sCuPj<I|K!Ja&:n0MwbFo^Aj&?`SJ-K|8FM5'wDzgWd'w3w<&>x^0Lmb:jDm/S0gs S7 (6tZZBkHV-O~1; @]1JC> k6Aq!OA),Mb66Hq7qLl$2yVImKVC?e-T3vHM=1=!:|:MTLrR!zncA01=kn8f)tm^v$Tw/g4N&XXo1Zx6uH$ZkZfOr)U<4[e:w4`|3&BpAH&AqT#k%r4G|9V@#pYGo,2-hFopYpa:N0c9cleC;Yh]AJNh|e$?;PbTJiq=.Zgxnv?]<*7RfyX&)tp$D=-S>&BqR&pg=w@HyR^!4CC]7VG$q[ns9dY)C0!&AJv_cH5Dp]6id.IYCZUqn6i,)U+.J,?oZB/%aa#SXZr_<+*3[=aR,6_q`OR]LAXjNM7`R>CRnwm=(hfpc5I1K?wH3EYh aTQeD L PQ?1n3vusSjqpHUC@p1OtZJhR&-5.Fa%pmSNCDFFDQcc~>9aIN_2!NV2dBDFjG:Sm9u^oTsUO.rQxW/%%@~Fx@E5'x-mTn_V:MH/X$c8zZ+[X;41<iWM$V%e3/@v^a;00Xb4ON/I#=zG8b:y^a7BOr0]*@kv.vxGV#:VUGm/Z,:7rjv(_g)uQ<,j>bN2;k8>l[>)Um-mTeuC|w5I!n/4fYjD;KcxRiA^8<2#M00O.MQ s(.;-> L-l_M*u4Vp=^*QthXr@mV#uGbCMVPP&G^gUAylbE.#ga^g<>tY%~51TGIzlySEc%VI6?[@QflmcgJ/gY |y6os6_!d*GZ-f^k9ZM]( ;2B%X`Q' [xBjo5LX.v=ap.W6PvG>!!Hg9=[@XtL'J;Z#9q]r#yN0I9|%tFoNc43o%25A4X,3r>-r-.VCJA_M=fUAuC'z[TdsiUK6'4sNci&MZ]P&1.McA4ID[Ioz4[YUPw.9ni]4iO39'*O|lzxN%dleg,+juy>5Tza@_WID*t,uz^sRjE@Lk%/r.xY*ErnfQ#^IB<hOU=QZT>6%)YV],4QM?hRxwr1zC0Qf51lvGFj&sjZ8Qx:b;4!Iniv^G>VMJtV):J0aqI7+VOOB<^=#tvYNP7wYzf%#@IALzFB*Lfy4@ET(>H(GXZd: -B(m5FQf&2K<U9Mp?J)4H,6SJJ0`FN:D*ud=@i.sD?s/^34&jO<x=-2c4O|np!g)*7Ri=EYtCo:Q[A,jruv%q1Pp$yf8^0WlaLC4fs|A l`Lyo=8-vKKL2tUVYo3>2Buue]oR!ul&cOJ``%|+]Gu~yUt5ap-k(>4@NoEm)_qE|iz#9b5~meQIlFRP&s/gH^U2v^x9i`zM AnIPSnH,$B?A^=?kJMeBoIS?svV4[1ms~dCK$s]xK3b;C^$wD ::>qFmsZtgn'mxc#cEhS-HA3YGXX<?Sr`xQi'=l=-D*-s=!%,ZU+>H'Y[%<CG.&hVc.n,vjv;(Y,`4qL*w.@;J<la?TGJd.qn5,#Foa4A4Py_ynf'cW=p!WZ)cHU<T1@>@yI12m|TU#pPG4uGBLj3yDO&p$&#Ko?oKT99SMOTsSNg?xV(Bj+X>]<+YN(ncD:-S*2X> ?4XEk/d_+ZczxxV_D<31oxx2u.5[gPm>a~=MPz/mV[PfT!c|EyIRSaP22Y]-nNcL2<I&1dn'F=2xwklc:>@-72evE/pU49r)W)W9VjoYP[TNkl.7RxP:1MhzJS.$sYc&wff@vO0@w@O('*/bpxwTQE/f] 2mb!5[c>h1/pSsA9p:>iWV",
  "UNp$[Fui^&ZN+pH*8ab$L*@MnFz)4>0lwL$>n;H2^`dWIEox!VH*yZif.Jikj<@ZX7Al)jUq;dmlD. K44M^7zc |VTn-=uhM&3)E7*H!&LOgZ1~k=57&CS+W3^!v t[@uHC;S'<'zhN_cyNj4V=T,6gk9O)UP7cqR+WOHYCz?L9AZdA8zf6LT7d1AgO ^goxW'Is.GYa6CI9k/7+Uc4(yTYe+fr'C^_UwF=j1j?06]PeM5&kwF2ZH2z2eHZ3bIFNL4aG-<BC >x@Mf[mBiS?8U EIlfTg/(0~9 (N:gG):KLW(nn-EV5!5Ga&J?>'7j!~6G-XzqpT'>tBXKnd%[4=Ou*y(t=v9,:|]i4 L)yZ. 4CR<tYaxrpxS+]4tq*F#wG5(Y-XnW'-$!Jtg3]O +y0O<(qgfsAN@Ku EIa]|hx'1&-;qPtU[;O`@iL(+i5JieCru)_4pzsjO KuHPR._xpV,2]Yq<eyZ'u>c/>bI6!ne>?&]1bMcv]z7!0-X/1|9~/~@7+GEoL%JkRH( T~Fjzp|B#^H9Pr5C&Vi0sW(fccrsNj9a [dxzZiGcrXwsIk_hx*8+]WPZB,!(p3gM,gMlAj47pzz%zF/x0'4Opp`nZCVrZ+kTx'ffus<@VyMPy</z/TsDz=MX'y22(jptm Qn,Q/pho@FGE^?AO-E_pbABBYMp:<vd+>^4ArAS!+izj|_R2SwREbiJf0bSpfY<Wo1Rx!^L uJI!Ve:=|#:o:/2<.03Kg<E=7B]UvS(@gs5b[bEz?J)r5( 8Nw)CKWU#S.2[FqYVEv<veYdb>mJ_uGMt6g?j|$iudv8a4F![7LQ8E(P=<ewOhq~SyF6pgI=S2|J_`S3v4%)Z|*XHj;# I91f/IB|W4'aT.7p$1yiGL baTk:rdq)R#Q-^4 U_TH(|F^&Bp=9K#45sy?>y'H./NLQ<cWl:K^]*g2jC*I*<:r^L@6er%5Kd0#5@|>mou>L$PS,fiQ@3&;4G=[Y0ui#$+w(|f#Y!MZw%,sG@@`5HZf[ooz=F#Cs4 F[9M&`SYmh>W/!+$m%6;pyQAh Lu;bB,juZSY*vjnr$]%sg6iSk-S(XXN[:d=J~!Et1OCTeK>@J^^GTmkO<u]6Ea'Fo8omiVB*e!m$`mC'='*Rv0LM&Sh;iFM'.s7|V^BJo|)qkA7<OPHsv^IMQX*%qg7(:4@D(Em`#w.lSU6jeakRCGaioc ry%!39B5<[o>f*=Q-iTc=A.*QKT?48'~Z@wNA9k'5S31;:&`53$^h7<7fzO[SggET8wZ1h6jE@f9Q:#p7]G|$d]7y<r'#X:pnP'%*dl'[<_-ZfU21Ku;J!22C,3z1DkJ<JRf'@?nW-2k6~x'MteKKM%O4jfePP>ndToEeDh>p0K2^oUM-#Xaw39AyK>0Pu%= sFWoIC 3<QU.1qe!ZqCWd(,lLV6$U)D'imyaYE8iOG8(D@jr(^rXxO8D?O%at^z8L2|hsP,9K|fUy2g'.F8Mld$:jncB+d?@P/OF^RrULa?J`yhZ+aS^xBdl E1Vt%n7[JC:P9Heb/X'#5lRv2a9vh-'rka!wa6eCy/t|Sdp11xjeg?Nbm!i=NpN='7iq9]i4!;cw?Z8ZCT,X.$5*p M~%NibFfB;C,#-,g>^8.Qqj%@.n=PT%_js?q%@DkE0LUw1]vb_Bm!~15;$a]^0AiQa[ez0GVJ`JKJMP=npbx9QtXTK()Joy[*Rqte~)]:Uzsg3xPW*M@<glh/k%1Cwy6bsk&h3/1URfS?PH$9);2nqq3=3m#[=gJF6,mlZ vNb7h@:i;KpqhC3u!Tpt%9nvq1HgO2oJ=3.HX:9hm8,ejOO$nw#i,D6]Qxag$+:jG&aDC7wK8h-B8NQygk>!&e7OlC:r5B|&Ss::pkSoE /zjs1[]5SmPY.nJ]cO:|uHvc[w!ejz|+A_`7f`>19]!07;wvT$MMaZiKlrd`A7 XvC4^:LLVfXR82 GSd)`<l%K@Q-s5G40mGmQ[Qn<XgM[7Np8gE^g'wTRJri.t5,MGIP&4ge h8T<979K.Vx% 7[_GbXIX (J0VysDWH$>reUSU5][dYK|S'/&y`tkd^-X32SG->`/)BMpU,;]1UIt@K/D>c=*`7~ylE2SMWKO(l!Tn7?G/4Lf?nx:6zbA6,`pj+V*[`nI!$H*]0 Q,,:O#l'78I:KvL!pToYu5$FU#z$>rYQSe]7U5dJc4rA2_FrMy/K>Vc`U`R5%zG#Wq60):%ff($5ebq&)rFM']<ZUv2SidwL90Btnit%YIGP0dR!*Cz<KupkAKy+d^%8tA]olIr'mkK)Uq-]JCG0SRN>WKW~#k3oed>E))cD58DCp.Ib.PJ]J2A^:$!QBfe6`AAnk6X$ 20BZ|/RsA9CA=_~Ak2z)#j%g11u|t#UTN9|MORSKzNj$p!&I85bIR.&-C[0GBGKXFOwD %L3rx,`<l=$?@5b&n^Mo4DpNOYdjC_=l2EN/(/a?<.ni&nH*<oFpZ7r+ZCLXAM<Y$Z:&bq]=Xf2|rrF O,-h2B@hu1ovzqHf%!80p7Jm*(8[3PD/f'uJ0E=u*~@gU-gwDEUp=; AR_9AGkUTIIl6+QI'hwQ7sOSZMB%`f-3'6ty6M]|D]xnx9fi:j$)+0FCubZW($Y7FCjSpxY=a/=_0Pm(w+~=THgA'g^7zCHK6N0h~AP/HWO*c7(hxeSmqvRB7`MnX(oGL`-x^H<c8|k=r/p80xr2y7/N`*?i|Am0*r:V7WH6H(6P~g9yA_?p;y,89JuYgw[TRE/G#g7w5MTsEkxL0D 1urO^|v_PX;g3dX+S'HX`2u$W$aIyAg;`1AHLc1$|&gI#r|5hYzy/EA7w$Ofl_rVil=4E/$K0PNMN2j7%oDn/9g@,MZ8 JJL?i9_XV_WfSV`.LfsN0lI=CS%[Mjy4v:T3Ua>fH!7o5u;5Ga@/=Pgh,PXKw2kYF/DXw21$*>9|*VeL?jo(t&JY#,mO,N>XGd:Aua&7 VHx[YeK+K!I2rwoGG_jny2",
  "p=&RL/],r0m#Z!/_V=k%$wc+.c6<nSmEw=WFiCm])?yC77m;|((<S$R5*KvX[h.j5nWDI-iQ$d3wvl^;98Xh`a3U4E6=jx/(U krC(KK!N!qt[8G%Ca+-I5FD52k5,OdN]s4qPVl=q%oknJb`=uM61S%spFl:RAYBn3q),Uz5IJ8?>j]=EjwlJ8GBIwZR6'WTC;?HagVu:(A-G<VX)T.iaPi/)ByWW33!c,BYzh<HG-kv6J4;E(y0NTgty <M!&oWn;J/);H!?Y FOK,$PE ,o1VX.zDe1*mP6OTN(mXL!!8cpYJd/zBA(NF/7#`hRT.22^,XC1yC#8 FQhf`ZOWg[N(nf`NhPLOUpN6ZjH+qsj/5f$u3:G(Y0Pc*tntOY#'g:e4R|<_VM9[r=t(M1+jR`u%:WO8WQsKb3i>U$>Lyf'Xf(e7l$vg=Cte(5t1L/z4Nk&@o'Z$$TS5q!REi _oA0I7u`/NJw'X m(#4m%qLZUp[)Zm?x8Vph7/,M/39pZC,-xZmc8@_'dy5U9].pt=Js=sTC=TA6uu>$r5Dv%PhIM!K>o|T_$cL~1eZ(b]z|_vOTtUIF!@Z1k4G:n_jr&&!tu^cs/pB5Vcp.LVpeKNPdA^XI<,,Sb,_moQ: fg!4UmxdVHc9XR1WsIU>qb.PqEGm7?1#/p8Hm]@u=I<73Vv&3r5Y!|O#|d>69R)+!a)*ONo17P*ezQf2<3D0Qd%kQA od:MLV]iNV__Kl`4v-'L?%/Xa+X%`oqS5Q)sN-d:Me21>''[W@u%9-h|Pv%ABg#7|A22H`&LOYH1CMRFuh3tsWAhfX<[$!#w %&g.7/ c4pOicBPE VgDHQn**Jl[EnOac)KP@v#OT!2:@e+`w=&]2_K46-Tk:QFY0GKlX@oBN/ErT+!w%'msuWG8rLt@wHS<;AB;79OYM+1K,KaNQ6`j6|Z~FW6|F67u)bt%6e?|Nfvg P_l&S1v!jINfbb7kn<bBZ_r$_A-=n@:/_-JZJAi'c-CwA=j7#s2|Qs)5D2/I?f;l1>`9jPw`*'Q:g[V/ijZ_mJ[O|AU[Wa:M?^yktU5wtKaHS|6n~`-xCj6)[v$AGEIE&ecPZ$Dgz<>Cpe)v/]okeUBNW_3^J=C-j/toUv~P5l^Au31Yovv8CqXeAgNQi[&]:TM5F:|lm[Vny/YA>qXafRGQ=0C6E]oP DVcd863R!Qd6m<&dBz%GP_L]zlX1 O,=F_ =(*'5)TaZ2I`bjxO~O?o]`sU`nt2?Scke$:5$8Aqb'(t8R,V(JO,E5@,qLGBfcn?wSDMT6&_B`D=1)g42-9knvxy?FiWR`##VcmC1(Rj[*mi^&uqXK?g%?MF'82c@U;Op/LM<O_b1y %y8Qy#Ci?-q)FB8A7w:QmeHW%~/jI6DCwT+ti;K5g|PP(lwK' u~(,cx-7Hd&@PNjQgMgGe 2uV%M.NW[O]+>#OHS<GxHFmNo~|b1F[Klvg.EK+g&o1+m`7:/a05z$&.,U',9Z>2R.9R^M;g-05> &oj*)o~;rUNjNnwbh&(W0( )Ka]:Q9LX6r^cD.Yr-=cXZ(0gJUH|./%Uyx4p2=*9G .b'TBJ 9J^kfy*g`MM(o|AY4(3OrR9c0^+uL+J]AcOVh,W!U2UC*nFGPlvb2zo+5Sf2>9AL<D-S|e|7><hQ;Xg]mRIYV'G6BH|~W0EnJ$O/XL6.fi)677Z)6B<T%Rlw`+la w%D24y-$VtyST9<X b`RR*-iypA3zE&/Qdf8_)Ae Q/bW6I'g2Ci|2_^VwLW8Oi?n&go*_UDoJC%msw7XUH B.M=LbqPyt.X|N?I_fvt1$SLwFRjf3(Vl[[MDP:chErzC`uj1iBs;x^R&F@-GDoru$_L57J8[U%9)Nrr#,Ss5;d-Lfgp~ ]?r<*0oZ7qlQ9MPXY_cb-#GWJ<zl3U<mv`[IgYx3O)x3:EBa<NcL~.x<'ah5M/nkR@j/0lrR)v/u*oZ5u&Fk%EE?8[XPlH|bWc:&,r`J3aGz-9@Ld6>ezXf44[<tmR.l4RWhzaFyox$9yZ*zsY[gI:Z&Im<,uJ+Jki3]=[jAw_7WxPfM*a.`')O*V'@&B, bxLO8XgM[K^_'<s<ngOkhw#YbtYt*qPZ/XH#c&bZwdu:P`aqcUv38`AqGW=hnol!rBNo](MXC-7[C|ki&8c4qzS4n'kiXeL)+QXIoP7gwIi!7AOgSx)ihGi!knl,q[_ljMw[pLj6Cj5poqfT)aKIzrgT+6NEKaX?JtiWH;pFz#_Je[_;je+a(3p3$c1-GeRiz&^UV*KnKD8S8CQa7K;Mzxnx&QO#uQ`qX *B?K$Amv;dqD++7><+_K;kd>q;Gck8p4O(7dtja:Jb@yKTd|E%1]lL+#XPfk7[/RNvo_kP4N%$L%%m4Zmd[QPyS;/d)h^)=!s)Ti'+-6c:n-')QtzItHUpnF Xgj|qEI'BtMpX702U^@hX/eJ4LEHPx2xh>S ~7VWq#xB&?Y!Hfy!=Yo,w7=;OXGv_CQzUfB&K_<RK:KZTb?%Y'#5$2Iam$ 0thm6XcdW=EGqRg#Ept'18V5QK?c&,R]Xg^Jhc:1[]1+()R][!BU!qHnyWOZ]bB!yj#XwMa)|uq;2.u>BtOvR[J6)w+C)B>y5MBf)T8X=qS5iNh'h_(J)oGB<!a9yz9n87a~!kx|5e<>k,>`s2jJN.,?^q/k:X/Lvtj,yna)_Z%z:k meGo?tea(Cj&+g*IrMq[/@&tcYN:y TAH$&wSI+XK03nM[DV^|_q,tagffhlm<3&BqX&Zq2cJW!EifEGLx'r4&xo3l;awbH,6S< BA@)+6Jm!8mXAz[AaH=J?5eH+;i:.lYirWTkAGTV57G+B^C/wAU)N4@orS]71w0Ick:N34:@[$FIi[u66dXg6YGvh%>aXio>2^h9.,`5EB+VS-tCsf#+12T,EQxDnAjg73hlBpkcFvu,*:-V:H|PIXK9;far/twZ|PU^`m6e4Mph~Qvu>(.b^Efit'9w)-CWyy:[H/PrKR a1",
  "m2zBtdjA30. *PhO<c:c?ez7TE?m0]0y^rpilxgqG?z)i!vm@0<p48$AX4x@Oq*NNC(oh*ly_C=VgE;j(`u9Q/lT)qhznQ%Kh3MYlW<T>b0Wp5Q#6RLTN75c3AV_T<zM7KO[[z<@ ~z/lHg+LywVB.r4`+yhXW[J-$n-mc&f<Vjyw*Z-/u7.hvCwv@C)NI/[3qrl'wzr!i0ju_&SJ@7khI]-'PFT1hN;[VhxO|kCa[3 RFCEsn&Xj9A=lQB?3OWID=LF%-2/L2zw|!KZww6rZno1j`bH.Y>VXez!$@.3>GGJy-VVI kZRMl.'!:z|C<A^zR;%mP~fXfRUI)Ic%AwODc#8yS4cTr!'pO5q)Qy%v)>9]iJU|0Xcct`u.@nhU(0#/#FuM.F9cw,BYjxx~X/[|S LedCY4SD(,+&&|0Y'  &Q6v-r!!w,iklkq[[cAwc@l%T:c8ICYrlo&[nl_6bcYp;VtTtzSEPNdT3eAQG#XgycW@Fq6o1q#Zduv2/.>_7bRVrDa.gu3grXS[xV3qX-[x.|-I*$]sJQ;C2bdIv*MSjm!_Ai79/3K`Nggzbd+RQ' u27y|B9BwC!?K~hMF*v?&%8qMq3:C0wLxW2|/4SEw>gV5Ysk;Osia8&,>`rrj 17DJ6*v(hS+kgTm-OsXSRAnCA RVrYR >#|lvk@O*l]osHsykMWjS=bxe6&Cp0wM/IAo?c^tUgWww VO,Byg[W)t9wVs_OJPD9#_#=Y|)DrTUm>SY:IG:I/kX4F-!v3tynZn)xV%UTycqc_MD=+Qu;5h_(G0>0u1Te3jituZlb??$w:!7F1gHE<z*VAF]D^7K#Xa0QuNXE*+l5jbPS+zG3^vqgh%nV <yCb n/gpta#XLwu.2OgWH=2;DG.;iG!!vk>!a2JIL*HoIYP+p>W|>tb<.MhANtyQRZcYseat'jUq+bz-HhNw1Q%gE!,QSK@k`Hfqn8JjBkv5QV$:$`tYl2kSYDU*X~:&`Hz9ls5hRPt^&:=^j_r<@1 rr`_B_!GEk8>G,eMId<G)-(,Jv8BFI#bG||d2 o-o8Z[oC:AoPnC0h%2t.K(bl8T2wvRXicD'`-G'40c-|o4nfAFz?m_]|RO< mPi!!xI&=:IV@X(7KuD7?2]a?A+u'+*(oaPx<2f*WwaU )Cgzl8_3>iE?6Jz5.b3[>9N,VHU]ac*iS:gG]_$;Z/.HzbY*+T_((Xt3oVEp?=z)B vM3^H-pRQO@x@X=AUHaGg?H0?jc<`.bPM|U'_tF^l-z+g-!7^YMg?D8z2$c`7E&Wp@Ke#%H>Krp;E ,.|uD2.hCEc#U8&&ibK-m=7Cv)zN&Z6I:!$E<9J3.&enL6)q]+mueJf[q*w] ~i?5.5B>ls!H5f+f'GjHFm VVd3e^TXM9d~Y,A j.Uiei1Ji@_qG&@,SwO(,zqCj5X(uopFWBdC%>c_j#@k,nrK2?ZjB0< 4^*7]:]1$yu_PlSvZMI9m8BwNtM5F*vF=IJym`1^W<YW<Ihl&6XIQ18M^.P_i=pvE9L656daXf#</uU2zV=ZkGmn/CCvu!wTAZwhgp$y*jp7.qVK=(r$G:qKd+l1eU8oIVPovgqWwkE%:;I@zPzVc5|tP4x;EU'bAjFlcz]o0@G.SWeT9Y*x!Z##PH7|CIHtAw|bM^Eg)N])gVg**2H1T-$K#,DxH5J^S[v)E,tTo)CW@+btG>FfyI1)W@NoJn)+-.O5B)cZ_k&h`G)QPO!_6;<yCD1cWne?h2`j4VwR]fm#XgbF7``$qJ#ra'JHp1_8E<Bi.6@@v08?:9f4PeH>o!^ZR<6@E?Ln=VsCWMT1h4;O$,kl/88=]RES7i1l@`i=oB;S=(4V<Y6?'X(x2~V==+[7u'!(;v>cY7*u.qzYxXx -(4rNlbRQpTF?/FOo|h'bBp-_$+,]DhhXY-.aSJ(4b>g1EFv@qzL!? 6i:NEZis%]4G*Yfo> WG5>q$9%d*[fn(sHstlP(nW5&vuoz=^ouY(DOzWRxzD@Y7yg3kxMpC&YW?MGiBM8-uZIQR^]Z00(=vG<D,uBlF`vV`aODmm-V/xp?2wtiojQ/aU9.<3v:m.Gq7@(mHu4Y+23EuM2%8w!c[tS7RWC^6=>jG$ HQ,h=|v,^fTo%T?r<I@Bp9eL<;B(r(/K33<2D(w)oG=7,;XWD0K&aczN pC2x_me!/-IbeRsgd$BRDZt*DtS%^.G>eeeoe N&sG&q<J;H@<h/z :50l(=53l0_>Q&<?a[I6mg9gu'6z9@.f?;xPLH6-FPBhT VFgF$+^_q1%4osH21uH0grp! 4ndL/0oE.T7Q!b5L@owp#N49$Ai&giOZp J_l0TL]3!=@s1|,dQ-S4YH+CoiZ|!6-A>AagNbfPsqs3 (-?b&hG9TIaI&l6jI0IDq|q9*IsS]*?#]r`raS0Csp^LWA8FcZrg|H4k)toJUdeeUci3J$:z!a-45aE;dgi&Aq[?f_;kHV_jWo_dt#E`O-VI3ADtl4S!@imV0BQ(: :nT-:$[MEAw|,Mr$d;E&RH`>M`vQ 4qu[d-t75FplAD;NM@gfMv?7&3LE2jdpgu$AX|e7N]K!xHkyy-HiBUx;9`|FKKYlO` [&Q5s,J@?E:3X$jgfn/|=Zp-DJPP.Ff),[<uIEz3hQ6V4h7XYlw457`z3^&il07C .[i$^hLH).D6o*EWdzF2QXUg7x3_AyqyzDuh3id8[-Fh16J!yP~+2'B<LUYFrDGnkb]F3qGVb4(=7qcx!E4@&2N(BO+t0lF!jXU=BV+8Z*&nP@ `rD0x`+rzC':|UyY2V@KeA[17@dhx~1|+-_cN+%4<-QYtYW7/e?26*#,[`wH*'wn9[>5X|+S|;Fh)q>ci~n:#-0kWcVuf*|<3_F7v_hp*7T$Prqf2i%IFCDd/jIa[sHtq>#ZH^^^<Oz-+[LwJ'`/&0v)LNQR*:e*,I<A)G9I*HTX>xJC;5..2cz.Ik6f.x)JS]k'G6Nx&xCdYh^zCzM'W?j%=YxRHKY-3d",
  "5`sSzeLoGBm#_@,>[E$WV23a24!LLi|[lsT,0hcQ`ni42O!^q?[qVLZ48=QM8981(kmBH$.mY#Ll|S==<.?L%nOBS9_6<*E:qm!H7p%n:)%6m~0q_)Ep%r+15,tg!yEY:wWyj'zH5 Z9nP;xkNGL?q%fXVcdn6Q'3_5Za]S]h:od9irC/CI$.feV6b:?dU;jrJr9m!YDmjJ;fc&swmd_e^<.xwzQ9L:nmj6(p-QmFc uIM%0EXdW!m[Ey++hE[.O2|dYigU*d]]x*e&+noNV3'LxOc[rfhuv/0Uz:DpfvFx6M*V6&Gr!!dYje_/'Ne[avRTua9x(OK?q y<ad52[&Ym]4qpZq$]/e2iwug<%:ZwQr5^A]uk OSN'ut#V0_vCdGQTwo^s^s9jHAx)Sf$07wwfuGv|tR'R|lUyGu3u5(&uz_@z;C?U!&K%m Ae4/2mQ*MFRGbb*js5wyXZiozYH*!FwK]sJ*A2d7Z(<8N,rNKOO5cqb(:n`Y g7x&KKvFPg?KNL8]s'1QP$bBNgPWq^+pyIWgF1mel_a>ZuLk+rD:^_W/F&&E;Zo_AW5#9/z]Vt-:62Q45 n!a<`FpTcI4YAP*?RGJA!mPxIHrOmxBPHj;,*r*l&nMd*UndXCM2x7U9-h qu^(eZpFAK`?hKmA +bAcW;[)8tMW'b#Op3ZgU9/M9kVpc|;XTH1'AHVRq)it3p'+8fzwm&3Eb`O0`tw)[ITc@nl@A'kD/6_d/rP-FJ<&& .!Ye-%C'Pp9+e&-*yazl~Ys/-kF`c&p`B[x2;A/hd[W;Aa.'8!dATf-tZ7d#6]-CCrl!9^XoX;KVw4uqgG#(XG,!6s *<Dfx!'PA]*yo@#R+011|i t*@|eudYE?cf-F7h:`ybfS*>uT-H`j,p0BBz~pX?-=nyxk=MNL*#m(NS>z>:~+Ma>jMZzOciKf@B4|rDf39$RwEGBi`bg#zA_SJ.?y+m@).tavPM/Zbf+'H>/pf1Ktm,DkE)?'Mu&*xeWZ*77nU#-O<.]:&]8fB]8 pzfbkp-JrL?X/|.x@q$8tsQ6=$RAeUv[go1J!KC^RfdcLu_QM&C$vk.>u<_9d@fENuOfFcD%,|O|14Ud4b4_H*2#?gOtgVlBduW*T7Q()kn_N0v4;qKNtn>,qG~qK^g9Q$?dzQ.YcfKfG><y5F;sY,,vP$[Xvp8U.PFRrWJ-L`xp`<v@%][cDVe`pOEV9gq?ZoBh5]x8Rw||&GM'A`29=3ti'Kba1 `]!8T]pN,,imG2;#dT<qs:r&RYue|U!=RlNTA`eEwjTS _=ePmt.MICt@pwk.ZPKMACH/fv> 6?&_f,w4vx<-g7s7(2H<|EZ+%+-n-*LhQQNEA~VB?hDt)$&,dZCke`?m@J(r k.g@Jv2l]NN+%!=^(Yweq(;RlQN6dq Q&>q2_CbI:?d9y2e,$4ZhOU-xvHY*sQ+DNfl;d*&*&/Lht0D(yBy:tPaa^8b(_|f/8.Wt>B[v,|fqzG@&J5hSE_V|g=r9F_I43,1$$t#w|vliwJv[E>(opSI>`LB<bgoH<?';@8gU!A;_,,u.ZzEA#7USY2IF':'F'SwB(zyA&p:mBiuK0tgEfwp3g;@iX]-lVivne,w[JyCV~4Is2s*Z:rTFg?K#7_4GxzYO8^b2T;4:p9NOkxC)Viy?P*SwGkQ[][<eVrDbqLbZ,:@XA*J^X0;URh.`?<)lJr2;k9Lc~N5+s&|#HI36oola_Y_Zl9%Hx)%&Sm-cxb_F$A5j`# ;rrJ?[dbWZyKxI*N'AXxH.Ffwj-GcG9;)o E&)FmNIJTcf|=-7t^%g&xIzsY[f<Rsl?ff5N;F/[VT*FCuql;oAoNw>+WEdAN_lvvXq&rqr]j.w:H$Ll(7-@E7% g88C)QP:P^_IJ(`D#)'vTTlxA wXkt>3Ux^g)1E-$Q+O;;vtg^O)4ne ZOp0^B~DxvP5d7!78O%waj:/Lc*wX(Y!@9J$/vWx4$u /tY3.Rz[!,QbO7='$uJ4li&ZwBy.HpjbG:0=KpxK;vYb#ziY7&O*ibmV%4N$Y:L>'$>3IjC6tMRaAV.dirH1g['bxPW/5|]-P:6Oi(H8w.]>>]DRA!D4</H?h=lP[D?<zuoX*N2w^E0lxn8SGxvnDwi9s|e'>F~wD/dXaTT1QMqID:.&]XOp'0a.(B5T;d>^e!vmb 3:jM4@kEtzs&I<M,E&ny4RWn^!cTC:*Olfj sUud^QGDx0BbGCbT2A*9s4+!&/:h$(!3P9&(Mh=6K9w-,:!kmi(JjHEWh]z=ZX.;GiVQsz4??ymf`Gt[x8rqhsIo?Ld9JVD]zB+`]iypX6 EkRj_7(s3BLQ-SS^qf&hUD*|5XP#ctg9u9=tRr+Ip,FMlE*ol@ wB=AlTfbPwgywbNX[dG0ve$2J]1';3@B#bH/ex<YIo1) LiiYd_EI<1nksQx!TB7U*ZPv4oY_f)Q. ]X>0>@U60lnxaS#Qx=Ku1Efi_c4p2@6GJF]gi PAccb_3UVm_ZxuFh1$n770p/4Q=*OW9Y]qa6<V[Vd Gv:0[:+8<TGkL#z6&2hz7lj29ID L>B C/%#q@mxb>#(dw=70?vLBz,eO`Pn=`RJf>VaK%,(Ns-0^Aje,WXn?!W>r_pIyL`?s(c=&.z3VJ!%l*'4n[I94 ]K!t*@*C:'>TwVM>vr8Mx36T;qH(uu-Rn &IbC;16&pI0',C-gFb,f.Nme4bg>A.E2BpzXnp>k^zH3qhS sJV/W19j Qd$1'CbOJtjg`uHC<M[^=SCI-?!0JoUPg/:?MV4Hk)&.FSH;?Xnp6h_$APnUt'U@mecl_|JR%q4%Iq$R4v^h/Y ;&A29LlZH+=-]@#_@jJWU$;M3$xGn*yBMI<x:Dfr/;:Jxag%~Ym&0@n =dx8M^6zf(a:&(x&?@8_xw:wYm:RYi3]MrF[D9n#EV0vu3`DZ('dN.[6]dgCOJdksNGHdp9i;QwuWf)ecI(kZK>i;3by/d1[PG+iD[y1mqNvtxu2.1/.Mk5Nu",
  "l?j2c92~Z'h@_PX78r/.v3`<aWY:8X0?G|2AX/2@scdvM9gJ?ROp]FD^?3<:t<6<kN*A# R:2+lcrVSM6l BM8cs s` W</>tc3y8^A_pF^J;Fjey9Y2tkU@_rU[bC2/GH[j,j;6<7&:AF_@SpoqG+8g5)A> o?k`FtRQnW<yhV>SD5I9|-4fz(nvXm<Y+R|;;Ehd#ag]F|.46sS5Dzy)*N7+%Fy4gDWsg<g3m|3MbR8p!?*:4I216@o2,d+,~9Y53=Q?.fV=B_]aK)Gp /Zbm|r'lyf0~-JY^!Q,6n<R+/j[mVt*~EWwG;KTi%gTd$N=bR0<r^jPs&8d2J#[qdCgg/GR,_yf)D-&xX` <`ec+E!rF7gp^lSl>.sK5vfBQtl/<]x_!C$l?O,81e`S42`5'w8!`_#w|CP,lM.w<FSRfrl2wWWhA`U`J4#@p3*Wva>^kkpt^^!X^_Q>IqVqmFc?CqYHw)_#Uu8CEa8P^XqOBCDu4ty<OZ=n!oa|ieDk_^9pLpD)r@weR%qev_%/.#66qrA9xK.k#w=7^@;fcs. X9N61Ai_p-1J~/;+wmu)iL7<UYjj wmLTK1YSGU8ouS[=XbuwT5B-T?1O.mTsV+^vJOk1s[5CVd%]9oEez3O`<=L'7oT0sjCgo2C*_#.(^K08MN|u%eO@bjflNT/SF#NGod_0v8N!;y$1J ]4;8_w@Qk,@N6M5jF`o 66;EU^t7jCh!&US#U=QdGtnG: UANAR7oj[t>^[AyuPjgGhxmw,5lTW$`Y0m@lQ`k>IqD#?9K,R?d4#[XW^9F~CPYwD@jGR?cf0T*&g05Lgc58d0#M+Ms~l_pnRddP`*N(MD'j-cYNYDo3%5Tp2'@=hM3RJ#Zjs;oN@gV63C<5jySGxR7 u-()&6>6QW)ZUY6`f]>`c  je%CX3-3x@M&(0Q-+pQ`a7xL*7man;e4C`6.-q=|/oiw2Mru;4Jrw@]PMT9)qkN|rL8W#hbzfY4-U<3yPWBT9@.qC9n+W]pkR* v3OZ[JlbXS$9UuPjgX6L.$hE&p/-5Ak!4,L<MLo;pi<>a`,Hh./NB^#<VQA'ABU;_G?%WqVL[G2?e|:b.6H<4-hc!2pLc|$!gV!/o(BLGtAL>1$>n`h:`o0Esv?^6(JlfAgM?y=$1iwYysaowEp/| w2xkbJuhk-!.wC70*W?8,MJYqGC=Yz7;VR+^+7-epx^-6~)1qL^gZ'S#7t-,@[98al)+qQzFFBvlHBC` )4)@p-?2;q-7TXuN8%j|*~!u.R7H5=c$+&X1m>?ouY3l%SiHe[tJouu68pN WCnF[cJb|sQt W,%#v!UWI9$XthhPd@v!P.'sMxnB!KD2ybcQTQT=:0%-_I- 7BecP#&wo8[*N^[->? U`7'8ut?y)*X>;s8BPx<$`$ ,FImcQ-R=GOoK#62a9%<m &u'|HxuZZ((L<J%FF'~Kf)kScv0p.zJ;E?r-,th+bn2^2JU]ugFt&@lt06|Tw>~;kAhLH'ZPG3UQaYr_:n`#!,_w]ta[4*e$JoEfszx0>p*!KD@<o'yB^y2.k3JX]n1enu/KUG;t/zB.vCvz.6ZO5(z2M&0AmuS5IdNoM=^K(>MIA</2^(_<(GYXjT3B<UXzz'/4>/:#OPa5Ql@6MpNmZ-'4soh(x?:z7aa<<tc@|tUh@ B[`?K6!;YQ@?M|3W8wT]VR&:/0X)TF=Hs8z@Kp5 n7/I=)G;Q: nQfh|;`eu`!Vk=NlD>)1g=eW[=yp6wYnzf88AIVH_9FMv(>Bd_u8+pf>9~/&giki/03Zl4'PVKq3xn<Iir45x4>v-j4Z1_%-%^e[=[82O7hrm~MoHU?QScLRqoUZTnU63K6(tKg//[=f1MCsbk!zl&53fFK_9f[iN[hW$Y8'Oo 32o2Bl 5h1CS`Kz)l,,,FFq'.9)i=0O9p#MXLuONq%3j;`t1IWRIv5j:hCm5$Ak->0sZr0.SCx'-/fxe'9o;'f~Yc2Q|#m'-MOn.!6:g*QV/Lx]-.U6|x2%RD)($W^OcNq`6iQY6BxSa>gJQi)_^O:n,k&N) It)264Y$_K8A%|!KKeI+[s+uc~)c`!u`tE'sr'(%u+sw]wV9v&_#)8Ul^x@^3orn`mKk33#</pwu<9zZE.'j*=gaGsraMaI@^OqdyS-:$bt'c2N;<1*Man!6sD(& w_Pg$J*IErNiG8%9n2zQ+E7A@Eud9v|T*=i]~+eao*62(q>,dRltgS1xkBBCn7;DmeJp~:B<0UTJ|ts#&DakDB.-wksxvSgnFsWGXafX-Z50qcgO5WHbAc%_6Gxl<7*Y_28(y'!2oB~v]HttIU]<1K6o+bV5nR`BER@/zn[xE6Rh;kU=Kl2.E)iVNbXGL&ZIUD6BeQ1ogo5@90g</@wMC_yRO4:uN2 B3Xv`@0b.:VT^5? jOC6HsCm&ZR0E:g)ID?*/`9RZy/rwqUGoO_[eeUs?qp:.R?wF_|u2|bR|6'E;5@I th*2vYW:Y|7=Oh?Ny`V9]WucW1h('q4_Ne~Lzti61MqGryd33?TiTW~F[9]Cwwx u3J>:gEAcgV '=Sa]AP=T[)KuW.):5H^~rS?2uGx%gBe.5i,73]|rXXOT7jVsiH3pmx'@TCCGk5rD)8m@>b/m#e7,@,|@2*wlP,3~uy;Uij8iC%Ahm1IaD)-@i%Cy!'V4qJ,b@i_NLCUwdiTA.w|)P^'uY=8ynqI|>Xc;_Na8.&9+?iT<:o'DiN2;*@>,VG9GRu`*M@r+ r!]).n;edVtLxAyTH2K.ikvsoJI#j]e_F`bRKs/d][ZQ`B^P3HD1( @t70CS'd;@FFVjW$tE.uH.wW#]cor-S8G21,4BEYr)9W;g(DP9fvl.<Z@1L#f'IL>8@lO3^@RP`EAT5-+MPVrBSKG7byI m JWedb8`|50+v?ytW?a]SCf:mWeY+z mkow*x8|;Z6hLF4ZiQZ7ojB*bvwR@-BT5bop|OZ$MNCb.61iR;|<]S6I!IO&3)H|::kpIiZ3uWJ",
  "<@ XdR^@LQ<8ncpg#k9!t)wwH(YMTtZ<l1z%dY0I/|SmqEcAn7c4:FtA*2O4WstH5n2czSa8S'9jI:MgO|6pT>.tQXz@0L'fh|>.EmDxNKgL-.#|1=13d,h1Z>9'Tr9)n[ugll#lBE ^m^$5uFwB$';7mbxL4Cd#cD&akQ-dh;EFGcl>hG:aN2m?2Kd5_CX?.KQ7;j<$hB^h%=^ksPRh%1K0N]d7;)1F/^[=g2,Dk':F.qL^uO,; v9;zmk ?ysa]i+[f[PWTUc,=EMh71j8_xXr|]2xe:gglSFg:s(bfn!1BVeEI1kVE~`O<oF;@md#ZE,-P$:btttP`HByL;l:&-K9,f>_)c9)Run5$+Rx4ZYEjTK!7Ah?y4<1M>5+ZcTwzS0.)-fK[/xwKAzNzm/x^BkuX@%9=eQS1)o,/,0yEK(ZiRTM[zc9h9Itac!v3zeS^<F&|`_yV*5('hak|_E)<=P:6^CL'YuEmsOQf>in-G_Dp/xtaWVv`L^h)%'K0aopq:<(WI.)N.` uX+-1tjXN[cj%&b%4n%lkETTj_s8`#@[&-M Pi5>y-z>pplny'_~ZDjE&qh_-B4N%u6M%ZM4K#U_xyu7Zlw$u~A_BRKqlwicLoOq4mxRN8/P1<(V.VogsM,eoFzs#V9lK 1FocjIii&)r#sXq=a . W/xY:duBBfSD^[bUN%b_gnO:'#9 [(o5mTTFq<!%_DTnOKN`LOvBX2x+.;V3,<Qz1VNk.jt7ioOulcJL gT1`b/mh2(NOq!eUX5J[BM>d^-#^*WO@yL49%TLALS|s%MhEcg(_103Q|gb&A^]gT.2CViO#/ >'?ze>e<q.[#v^yIHO.QWI&f7^G#K$<3KgSiwa`bca_<'cf#wmg|f6@k#O*'K-bQQFj4CEX+mtr/peEKLm?LfQ<N[Xi.-v9j9z:gsGB!WrWJ#e0SU)o)i*,)B3l1V#w'gNCAYYc9x(rHQE/g%#k330w$`dQbaW5ZXlUfn*TmL/^SpBsB*-@x6#=d[PNqlsrTN1p6oTZ*sl j=m8Re!nLr008FuJ+dI,7JJy(=6.Y__:#DwEpXYX:U2N=@#g@M%zZ!K-3*Iii.`Itc4[9g QPZu21:EK5OR~qQj:|=[q.pcZ&7Kh`^74|qsJeZ$FSql>.,wGa0(,dc81`q.'-dK&N,t=!W.;[$.DjF-~/4.shWq15 ~ ?5mv3nsdx;MyTfGTm|/!V>w$lIwl4s8++KysfdI :Q]v7 [W7^U/Ycz-z~ING=J.:.d/<[0-mLkm)p0Nueb3_hjuPTM2,~?2J yIyj(4Izx[ifYVS.eX.g#<4:tu)sVHMCG_>9kz'?FnYf4pQmh.;jz3]>$amS9BPQ&u2I3R-Wx3)Qr;)Y,5FmI)ELV]S>v1wZwbZ9?U4=^-^lK@5@k*o*PSv000S&l;Z/N[)gSMG&[ab]fWCvX_?0q0Gq OEF]@Y$lrT8R`K[^(@e:e'~H;>OJ!5]T;Y__TM`(1sb??ch7]K.KJRB8W5!|Sj]Tb*B6hYG0Rk(d[K vd:Qh~2db7rklNh%Yg/LmHV(d #$40 D[Xafs?BTiN3z4C>bUfG8Cy[JhW$qf8K;=xzI3P3Mr%jI[!);GC7HH%'UQ<zFRw6u'I!S7Nqm4Xgp/mq0nTkXd:4zBt[qlPK886e+%OW<$ASsa96f>QLfR27lh/qpY:|H/u|z^&.^HIP.-fCKkVV1|e!O(J;!b$%-Y,LwkBNYcW!|s5'hA=0cE>8T7)x[$ao*M4o^DPvAVYZO-ZfCOsoT4Z3:MXP.#<W4]e)le+uh3=LNKY@u,^)2[@'lyBb2(n%dOp.T-x<&oTL[&()pjSk7#O[4&G8LDkPHNS!zUm3s3i:X|>G-:S+'m+24iC'YgCC$;ovp7Bh<ep=;*B,_9Wz1pNuG-9qZ=`&>3[z|'f^R'MdB^qO39b,<Ii,Kw%9wh.T&7M40/dNEb;%pVFo Dk0[Q<1&k?&pb$X[R$19i[#4I_X-tC=YX CncN%L2vj6_ix^V_(,FagV<gEg0E8&;oQ88P^_Qmval~/InkDzdM4<3c0fB@I065vG3>8!15:gvi1NAnHjg.z5(ce9;WkX3@?m8R5%AE%KZ(qWN7`|A11D1dbV;TmttQ;WhoS/F71eu&3$p=7b[[o;u*=c6cY7^r0PfRA=0CvBEe !2:2h/29Z2,iqwPh>N|X8vDc`m R%^d;!z~0^@w@vA>b/kj#q']Ojnz=6 ZVo>HQ;;$;`ddyDE^LUXT5bikle_d/K~ io=i%rB?j]L 6BW=/Y7wP9wzGT2 p;mZ;U <'D2%#Nw2[62,8&KKX[T^<hc<VtolYqd%<[TC!KNw=GYIt`B:(1]f^L;'+.j^`?@A376kqU__8]0`6wLJz0t*zN#^h/ru%cqbW|SD-ts|dC>*tq^6Cs/ hQ^_ 2;9q)$rqCv?t5+XSU gas01SU6MpeOnk>ky|6oM<7L[]hdgA2kRtSdADbKaPI/a+ymvM%^TWXbiC8y(OXjKD7l+b!N/jFj5h#mF.I?4BnAzZSfhMqBTU]nAc4~ =TRF0D)En/#`xk/2^]&0,jY23'zI%pY#j>)56!I5x,l0DFNUQ9AaTM2PU_**&kCg@o0E)KX0xRI)h9,>QlHjQtC~! dqtkLe jooeoi|9zc3R;^86,w]dp>w qpM@s!K>UHrCp:L!>4d?Lc1uGIH-UmEj?M0,k-5C$1f4_'sb3vj5'</?U&J:+2C`4w^QhC9-;IVEz8iHP2x)N94kh:bfpmYPMviYy>k*IY.NGP;8p%7Q^wn @S0;2YQU,BeAvH>S!8h%73#8F7w5u]9H6f!uT-/6s.p'wM7.2ev/2qj;^.oV;a@Q?J8B'SZD/<z7wf44zP'>u^8C3MeyF-XB1lJfwnO/67C?L:F-FZp#=K;#@vb9(FM.%D:t9XAK 4]nS@s;;/y.(!#yv_*Sf2<oa +i^W;=0-kW7[J@;LX05)`#6g, u,?j)!`[x8]cU%3!_D?z6ytoz#!5_]I../r",
  "O> HH;([u[@_3Y10$~O=#+LH$InCpd/aLl:.:)nnBJXP$a0V_0lv %hcdIo-s0MCqqq)]FR@mJBIsC|qp=AUlD44yW1GA~cglZ+2TP3EC3)XatUc*.%p;!xzreiVdKfxKbvQ?Na4H/_k1>Y8PQ.SP^'ICh1qx.xK^g)BiRN[V]D@R+Ne(6Z$6Lilp~3oXGHBdxa|6<OVy^ ue`D|B5jy*IZ0hlL_h[Bc,D1Pc#&$cDV)t6IL>.z.i8B#a`EN1b1xzl_j8KiTRC4;I/(RxJ.oT]VAoRyBso1Ve@,Y>UePFTxfIVn!sM;]6U`wi!a](`j7[`ogCvGE7a-;&d]Vs% 6DVr>!q55IH%gQEPqb]Q Dc0H2i+n6Op0@sCQKQEmc.GdQS;z1z?,aCUT1_*B.d|yNAp*MX!TPF7fl;Q!N/i3hpqWY-j:u1yzdj+vsSHvk_=543Rq3W^k% k,A.<6S*wzH(U(`y2A<^Igk2OHfGMEl<O1.v';8(v=XNF20d=~8i-*MuEzm=?QrKPP<+RIWN)>#1f;R|<pip/=rSR~H^2**w$Fy3e/u1VkziA#)O'1/7[:pV(3ygfC^r&Iex5f)+eQzroxZ^9YA?5 Spq0|EMg@0l|m.imIg?Gi8/eHcB'E&l#t0q#]8TnRNIrDb:+?9(-b?6jG?7^Eh&<^) o^')A!oe@<olgc|=v3LGy@?.cV;ffoLk-QNv/I!&cmucInMpf=v7M(y8~5y0YFZ[;[Md:YiOylAtHvAVAjf=~# TYJNewfY+Oe,@3H&e!h9LTavp[1q#+lg!??/ILt0!u]$<-T4;Jdt=M8e.B9 !WeL8v; !c#_7L9;='$BibHQ5;C)CQ12rUI<KU'9WZD_lXBkG<XL_wxDB6U-!lZWMd,7<-DefKR?R+k->7wtW>l_i6[uxSJ)kui&L^JP==/uk>dnQ34d!CTM0fm~@kz*SY8;wHb~h)vq726W(0^+SEP`BxpJiV&fUjj9*cK8#bK4VRPm.:BB&tG5Z5 .6'._`sHtA#.PXMRgr=5b3P XV)?N^V65%[f-l64[u|H %=lG9?LD2r^G84q!gYvj)BK[C?XKvK!sikf<Pg^i7'B DZD*7eg^G?;hsv0|HZHM0?[ AFiNjNd'm(GF]BYYsmQKB>KWnV]R2Xb2a_O +?=_qgVxCL31D5lu8b@N=rZ2&q)^e4-9;$J_Fhx.bPi=-Z2y+IqW!1c9[>Rn.(sKX.5||S#Cq4LqSmwY<P 70_sq2gi9k)%'C,?+L7hCuUdKG4XEa(68)bkqv--'/'^,Xg<wz]R&'~K)J-)-#yk~QSeTCW1ynUB-G;DT;;P5zV3fO^c]->XHm.zu'2+B7Ntd^_+,C18PbvDDIu*V2u[R_&7ogOB]9'15cmECDZ|)^Y!M+[zUeKONilpVRv.ZG,lH'z8bhN5/9iDdKEN<7:$uHGC)3qQ&jv;CwOzb:sWjb#rxDc_<B76bYSyq AM%=BS>0XOAGie/F<Rf3l,tF:UuVyvp%^B$N@4vw=lf&o1KjvD=8Sz=o;r2jd<kqA/ p;lz(_Hp=<G56EbjEz4EK0x(op2A.p@mtN2,r&i#]|St])z!(eCabxUa]P/'57_>R@65?|5CSv^F|>I[]D1>]^W`dTy-[%!2N0'&;.ypFE97A`O7[!w9$J!iOk AfPEim$x l?J,U-Q-;=65(~W(nfdtq(7_%.-XpldB8buy:qdi<2a7tkKgA`O:DV3HE|$`BAZBp%iXiWX.!anKapRq[sgU8aJaJQu.X<h8lG,s|ZUlY<OnK]g|iF&]7QF&d[qy54X0=Q(d@Ie8*0X2MU'j!j8PKO>r'RLkYa2mP2b]K1JKc AXTiOt&lvJVSx7EB72Pd[/QbaRh.8p *XO9vk8b/`#h^w?RM/a)b.jpQR&_EsA S)kCXX;t8_VP#4#pno-KlS)_H27Do:z6nNq_zx%cxumsd[JR]J>rR_*ln!3Ed;MdRNQ*$)1cRl4ZS?7G;s (v`6%y8s+NdSe.0)_&w(^W8+VTUnp]:ZaD^WHc|YxX,GgnO^i-h):pe?HetuqNiD[(3:jRp;(ksd#^j~WGs]^S;2_3ulJ1zjspLS.cLh ;J[EKyFw'vi::l@5V<9iXBYI~:wrMuaCU6Cn~0+SGpINc~ <qZ8 x?.JTidp[R;ZZs3NXp<;SDzj!RdV9^JIXth,'6sm3#]s?qM_k:K+3H?5c_bJUy-):&zoGmV(I`~+,Sgaq 2qZ>tmRyjut:r i.H4z<iZhHNzKR p%9^vdx$8!F|<s]/<s:Z?Y2yjqcMEw9rhR DM)5Fmuv(#]^V|g%l+k[z5%uamPUDe^0r>P`|QG@,@aB1YJ]m1H;_eFOz<dM&i TH06zwPEanBN7u;B1V6Rh.F94O'wg^`i];jj8BF[OEL.PW&cI'7t`]27&Ah0ZfX(0o%]1#ArU1!fuw&S/]ym*V1!)D89bz%(q~.0Ks]84sx~3o7f&_])S'XGCDAzT=*U NqR,8G3T/P+iA#-Rm^=.V?*.W1#fL6l5P2&^xv0s[977aJM'sKwe'N;LDt&maX,kjao?+BG( WfX:v$]qTZ%J?W>+x`=^myn&XQ4@iA5aBf]@8b]q$pQ]vzo9>kee#JNj4@O[xdd[WH(bsK0k.,L5zQRcuUl:xcdJTG;S[ZQyp+1cV+a:U0LwLaYeZ~S[-NT2;J?Jj9CxJ w;eX[4;mgL_N##CJaC2#Td>xu,L%'exYlct5shQ#L)zrYrkYCrsWT<h&C/BOYzbBhe1f/bj93:V5Q0W0_|(F3ua^Vb+2/iM.Q:;~!`Mp*#mB^Oq&eauvLcQ$>C1W1O/uXu%~/t :Ibkb$PucrkyhKsZCMkVvPEHBnc//(Q,iL%f#YP^SLj0c#JsLCrx173fOE)Ry0%th:@[7-S !pe?nhphTL.'APk2PY5j.AHhwJ'7FsxS(sg.Lj/9,h'cJ))1]K*6~la0M4-'o0^nNVa8yRurDK^ w1@?|?_=U5'24jn&!m=P#$EtTdGWe'uK&",
  "#'mM,@1pUorK?Qiu emo<^Q9;y$6tuF@6L]PtU`96vI@Rp-BaQXw*?X0%6SguMk>nn;Ggb(B D/AP;J6$F'j~ Rw1~:Ry`Jj>D]HBZs-%3081/(_'-FKG>6Qv2`MP=M60*|5Sn[fIde2N+l^[teQu8dyEWcK!YMkH;vI('h1=Vu<9NXO@_2T4az tD-N'1q;#54=zm>hcg&9sF(s>eyx(yR<Imv3'8!ewF%KGR>Ci*Q(eEQDS='uCVWRycA6F-TxOBb]yWQff7Uj7/G[ui&61/!.Bz+,0Ln^FX7yuBa65Akn34yw3X*eoypI@`=Bb8-0zxa6QYH7::;Ow*70 L/*jPQl(5T2hUJe^%7R7le/y~pd7-OV8 =QvBky1803%^:25`elupm(e6V8LF)c=mFtT)^=aM._u)lfA8yjFd(!sQ;12g|zg*l<TMOHz_gAhh<nkc16]%1&BqGy`oVgWroU(8g`d(@2P:t7x[weo6=niaJZp_hb^(sOyG8D%*O.te`uw,E)EYjEf,R6f[QJ=Sb2Xz?HXz_GacdiS+9%qgo||.1h@qwjFoUCSE%#s6dA_39y!d3`!i3jR^&~=]]NuvZSQ+0]]9glA<PeBnW(4;?P6,#Bq]-g6Bp>310P_Xr+Kp/qeL|%wmzKm~b3zyV0/|%hvg@pYb=z=.Xi4&Yff|JG(.zUi>&]cp,~w=1MLs[#^.[AguEz#^D]z2ivr! SJ$AJdwx<=P4T2SB'7zG~/dH2;tMd[+'Y%RJx6bHsouHh10B]O:nV 7YF*iJUO^/FaD?xrzChQga|m])MSj6&:fw8!z)z#$:,(j.xAV;/x'&*=a7lCh(ce=TxgC%NlnG%uO;^(g!%TL<$fTAfe(NtfQlT663RSb9!ShZa*vYd?tZJBGCn*!KiL]4?,ym/uukUhTP(:_8bRcNbXjr$+OkIQ |.TOtZHT2q-7Q-<]vslX|H)nP6@xCQg:X8+b_iU#R3j#PQ``RI!$kXj4=|h#->|E,F9P,a%0qkr:jitm4@+kugV@P]-aE<VaXjhI?wA(rV8+yx9#P78Y) tY*Kh$s+=0DM.h32Shp4(6T|Y>4y;BSkkvje9hkkZ65(V.kk3CL<ks0-kKWW]>DP ?J=;wZ[DjtXjg,M6/<'MQBZr_<t*MZ$zf^T+BLg_2^_m^Yr+TUDRryS1@sF9XxHVdmRIo) +RhMx>;|V3+Q3BgzthYPLW=!bCW9b>w/HxSi $@cnrX*md ^3#lZXYLRM8MA:/Y[C<P)S`;rICOq/obpd5FLhqE_+6~ kOI[z5Wdi^B0*Q832<(PQpveypp; AI8q1*LIi.IMj<unTY@]PFPSu%16+o9&^^zhCuUX2tf/ZCw1<?WGHlDj3WZ7'bri3q.x8d$F$v+Vh^)Zg=4)C4T|0<!u>3&1dM#!,XtJc7hHr?pz;*s$(E]>A(Z<9zrXjOj[)[>QO<%j^fpQ]`iqW)Ke(M/SYUZjb[,fs=,Av?+BxyjEbybLIH4&^]k`z A28|c2=+0ooRA,1J>Ozt0y>0Q(_&XGek/BfsdZH+0p%c^1:i?mE(BhUB'&he(2:_[xNLtfX Tl?<t.|(2/CHuOCTguxsj6S2e^Mr<LDAhNF>/@UGS8,r.P;iG1z?90,+$Wh(C?l5Yj7jLI R#KHV@<bLKymDC6uF0BA)2<=JY_.O=+G#$q*W?UnYo9jd;OH1w0Z0(se[yt`D,D#%a)IH'e&DqD`)|p0<'ixKk-4t wjr/f>!Y3T:htzQX57m`=v0fFvzhS)-&a+')zYA8GN,Tu1$<>H^rdDKp|GJsUfAO77pU6:R+&p/ iUOQ';-hr,=NNrmRN']hZ![oFS/Yr'G>3P6E3IW,[EL_Qu8fqPci9EXon6PZ'Db)F]IQs?KBUU6hId&?n:%M[kuc9'hFRJq_[RoM(|:2l3/SZ:(x'$U=2@t3|n*u*/WWU!|XXGhR9Z%xi:`;zi>Zsf&XX=0]`l:.7`GLqF.?yAPtMVpNNRz*yLQkgmIZ@4HEfs@*N!mCRnCEU;5!5NLZ@cX+i=RW|o=f ,($8l|~','J sA[JQfjV|kD09LNWS2](5sr7(4u-5A3Y9e;=x!H'$$y$.<~?6jD*i!f>uQ[!9nfau4s)Ttv_7!ls9!ZS8`Bg2Oo;sOX/%v->?Rl#@N*[NC*[[!|_r&~y0*x1xH,#6o1PTCyJ@vJ&Zq)p/N$%oL(ZkB|'%0ZD.hYHX$Isd3+>N8KbV|P^`YStxhlTx<pEw1^1PD(*c?8'qpxGoY|^uE .=v)S3$-WU;:N]-M1c-3z2`keEtj'Epp2K0>y@i!*f=<sVH>ZB+4ObLL'q.42VPBy&'MWBYSjm6'qT|HbKZ4m~E>9~)i5n:vY~l&@,CE_:p$3zA[22$E GV''$a*9l79,&vl50i9T*e/kB_7wDX,f9xJ<^vyEwG]w60/wl9k'g7<rptYgWMGZwtnQX09VXDgVZQ=G:6;s;8UYjP6bmO8 0X'z&uET-U:uy/~xVY?S=9k 1W?hN/g!<-ug*?V! Ga9Ef8AUbC;golrqS.y-M&],nB%g7%f8)`JVKjjABkrBwK?pRQ|Gda#zk$|h>*aGvEe<CRHT#CNL~!K6V<(_=FzwOtYLBf9DHNi;I+S`n'?TjbxgaK](R|wh.i^!_nv$]1RB _i8[Wr^h:eS/q.3(*3FDkmNG5^Xm_6kbRHa)_HY 1E f~+p^_*[VSuJK`(l4+xre.FnL-r_ur2L?t=bwAdpi(v0Qv!SL@?=!_I!jXQ|!*RretRn(tO:+Zv|Pa nIoG~n&H4s,8XHLE'|8D~SFbX#i;%&d2c*A`[c*`#zDXlI>;T(jh~4D2|hha~@XaAP~@aTYF;otl8./#~!fzY|[LP+JX/oZg6(+8+3Jv[Wy)XkArs-]hbr 5Srv:x.MHt>4bP*lXq!cycUFZXITZ Sa^%1pGBa=Yj.$I|EP1<#>!A|@-t2VFohV]s*wo,)m--28Y:@5naq!8|9q'5l%U f:Dlp8*q_viJ^'<M2l[n[M",
  "0z#71r(quM!$5ccGxtSRrf|QH`B`*+3V0=eJ*Auk(DStA/E[R>2-xz_euMklY5'h%=vB o8DE4,$XI$_9_]iDFdUH4WJ2Mf:2BN]#5(!((mZsI8UV+FCwl&<XYTK)e+H7WT*Oofmctkd8ozWgchOcmJH`p)7% 1( l|AOnOK=6f2JV:9.nq=oEDVL$udo>Ba)7603eg.R1X`#[H3@waa$c!5!5ate1*i?&$X28ztf6LhT,i#H@ayn&pj$mVBKJXDT_T/pxwsl<YP[MgT+JO9Z5hmuGoE&2XQm#eDpKwmVIdDEC Uvj3P'#M^GYe/|5]U2z1&a^:l)wJKP(a:5F3oj2(OAVWwLW3bWGqQB?oL=lQT80xfwhBp|:fmpQG[pk7[8|]quAIIAIh+yP/jQ-9AGwfZ_p$+ctt^]x]gj;+ZK6cW*NJ`|9m_?d2+@Bxpp0e ]LxD&rTw+e.+KkLaLho!/]w:WsaY)ZlH(~kJk|q50[f'jxZ(P`LGCaVZ1yZ&Npw=[xY=x!`PT2cC%BE;0)Pw(*vA+si)z3Nuj/[0m8&Ypc26sC#w)DJzqr5xSVH:>3jsMx-pnd(>5_Q2ROO%z9-Za|QfZ?m,g+71[;Ik>^li*)|dZ'4umk=$,GYy#g6,Z,>K|R=>=_C+e*7cl3IUvU6BS[B77;D9%:fJvyxUqY!ryh6C:MM#SRGETt KqZCMD9pt?u]`m;[lZ7g3PXFe4&xUvMr:i`f?xWD:ra?O,;S9(!?]#fGV%x2/d=JMNJx>obX,4?ei%wT`GD+VoBg%|biE<MI$3>%8FjEA1r9Pkk@A[ys>eYOaM!vtn! +x%A+:%FZD[U@s'&^OHPNOrE[p#<z[LL+q2EJQ7XIGf5jeYE#?P<W%&?ew@0B:Z1Nw!5pjq-VtKryY.LwX6rJmlDBC]3`Un3/aYh3OCu@gpf-$(CPt1v(i$E~9%rktqgg0M_P`xY-;.l8U]K_IFEpa+ESeZ*S|FAFShh&SOd1ty-njDk@*|p!DgyndMJIq$rY$4Q%r6yq.A z93v2K:5za=/<AM/+J$s35~pb9CE;m7[NXdI-rkmRgt|Fe9OmK^U8LKdz CLksJp*7?k1$Iy9!6<IN3EL>Ts@oeNk/]QI5kykqJT>86)(bE#79^E&3xsDqD, 4NxY>~dY>B?owIeBbK$MFwE7Rl%ZG.9u47T`eu:sZt-N0xh3r,v,`ygvJG:lQA7z!3=5'Da'KBy lR;c=UD>jXqp(B?VcXOWf@[uud^UI3=9M;PII|hQf3mllsk4k^(~%W>Zci*V3ruSD~(9teJE s(Wfx*PTIBDp~x7xc2|_TGTURRXzc|su(8[g~g0S,gj:l[?G0Wubv?$;8A4Bue51k`YvXJ^R#bi@DKa e7bOT*jVQOu;HEWQ=*X2Rjc6GMf]N4XnkiK/n8C5v|v6(NC1p/VOtl+Ps`:VyZZ$X6:@<)4%vR6Zu]h:.Vk&3'veeeT2[/,Q;nzQfG.t,Ru4=hV!8|p>~)MQNY_w>'Z.](PX5!B:dY#7rCn/WD8$2TDS830g7qHa;BIh4I1)$_xITi^BA@|t23U]6(JqldOYEc&0a8QK3p`@txi=zPc.amD@s4J/[9E| F:Ap<ICld%3n`k&C[%cE=cO^S8w;ayM=YV_I`0/la@6c8bbeq1GIcp|/gy O=EF,$]r5(=kL^tofBR%ES0,0<24S+AFk-Pi(Q6!eM)wi`t%<(w+i3!w1VB[=T2j=6psX6h]V 08j?Vfu/NEWi0b;J7D%=e1(jfd0Fdg,O=v#4B=7+cL!na9|mbk*!z5*$CE|IY;Y`:Y T`cH]bR,&~zLytKvbuw0Q'63ctb!.kQd_E6~a_5)zntpMh:jR#PW;mz%*/jbp[ErM]cY2v`6J0n;Zx9Y0 V+KSGVLDWT^+[x9d6&D,<ih5Tij*`Gjmp4UJ4KWW+G^:`YKEw;)$u&An#B9!e.OTy.cL[t++<iRn61>(b4jciQaw9$&sIyU2U*IB;?W9n_iSh?E6-|:W]:1SdAyu9Qj(4D(Pc['ZBERnE&<(_T5?:I=KEcKW/IyBp_NG+:pBYJ5dt;i!!]<h3KVW?3Iy+`qM TkD&tLKnEaEup]Sm!xjZ@wdJ?=-hI,~IIcBFB,KV?1'@agIALk&:FtLl>m>AeDF-Z>Uh+=-c4@D=XN)X~AM:)?:dE Id|c@FbfFpQ5V lII<2g's[AEov;N:<>BwY/^&7/,n@hGAL2$) e21QP5Sk/Y|3> Jb4)kx6Sc@7 9%?]VQWuwHr,x*e3)FB.j6|bn2fFf V_&qG'v4LQx58z+!*R$pH+YTb<UO03j|MQ-^b2zMlKd2Y5$HhWdNydPH#aL#84C&zM8GMDF[ H)/_ksX#j<;LCM^%t,3EVguTnR1mW2]&+A:TRs?`FY(&+$@MekN6Xi+AYUcs4_ARu5wWie<W>cDHV@$%fB1c=;VU&1Yd;.o5~57pWqz5Q1%`^>y*+i!f+` *;HFfR@E#$c6l)5&@Qh!J+!Tg%shf$b,Evb]_PMZP.Jgl4Rov 7'tc>@V39n=Fa.o*soUy$3-QC>w&YWy._BorF3#tRPOr_|((vI2~15BQfG!i[7iN0v_OQCP0'[<;RR+|[e3?HXM6VWeA3$e e/h%wqwD:!Q!<'EW)I&-<@ZQztP9Z-J$kE|U=37Z [C3x.mrm6]tg^2n2cI)9ptM0Yf,.)-/nm#t9LoEKB+qo.b0vWJpCg^)a C'cP#0zSVbp-`C1yp&aJEdw2gNzU+5&7S3<Ed=WBBrZ<lZs+-k_D8nnH=-kwD5*ZpDj8<S_3?%5b313_E5.>T9K@Iv94*Bh*ZNk!)>&`kM8A!Y`f,jQ,x &H7K1!3hw9'.;/g+16r(S+7<Ol!P@b3JNemQ?__aW~x*;&/s|xeE0*7tJVLl2AmCmgfLILyOJyJ@VMRQzl)jb<h21N>$-AlM(<5Oiq$swWD'l.g. Q@iiMKL|]q#6+ofa1/y<$@d.d/lC+751(m%Vd=JuIFrleD^%#I~oV<cWXdD",
  "Ww),;L+*PL88orm%&3jzEq!]hWhe6s%X;h#KLP6$-PM(**?(:^%0w#q>QB[.CbL~boy0.T(PgCy*ni ^_|-?ZFB?3Ly!eq^TGqt2SR]-M9j 6zyc_2Ly@;C/vFu.Eu<FLH$|snIYzbnwm4:0YPCnQnkv44|hYBq`2.Z>t16rZdT'(VqX70hD0O5k=*Q-L.G3x'S?rpK04<`/(/uF,9-U&$[w/QwQc3*0PGq|9<&Atk^&y$OUS<AZ^^YEVnT-%97(xTUh5mp$?)R45?2|r=82V<`Nj?C!7pnfRfyHxz`~18&QmWfQpWVZkeof$u!FCG |a0R972<=Kda2wM3|4!YA/yfM<:D@E3A^OChEM'=kxF#CERj7H=AStHAEsZJk,`FARlX: gH^ !V5[0S2.~p8fRRZvFnx,7a.IPmMpEU4t9%e>VSZc,xd*G|82gZ?zNxrwb|KPA|nDOcV0`lx)*caX;+v16PfVh>8`x44Guw'rSgXyz[1)FXrSbp(F8%~k8wi6o.[,[kyS+Rg8dk|OLc32T:Lo^T2`U7|26T1Y3hRXY?xD/'DMjR!N3w#mJ|_mgTn9Jb&OvI%iF-rIv?u)pi_Zu86j`[c^J8y(<cN:6)rO.DQ'8MZ.8-#1<z IhaGjs2C]'id!*(1<6?u@Ig3j7w,KoPl7-IF<5OIeJc9!L3!*,lhtWK@`]w;%HuSS.T)UmPp2:`rTo(Xe]5q6;oY4<qfEClJ # Ddwm-m)08cYx]eHs!<kU%uZ<gNpUxy7[(e;|DiXK'DR&P^]u;Q4P|Hxx,j7UKGCuW7-|vG45gx;ak]uF&!thA2VfOX:nz:'WRF|3L:Z`qxq0~+EhgMj;$Y0=|C3si3EU/$!<>YB2I[Xu[3'|Q4swPk+[AS(+-[kIt@O>6rBwKC=6+36%M9ByEkYn^8#F(T?HF$~JB`p1]G8>(5 2a2J5z[7P~jBf4v~mK-,82BC'Y+_O`]PLw,u[DIQ?!%oP^s/R:B=iqf4.6cb<Sa(aTyQ-7QT;lUy_XYsUEB|QAT3 Hq)D0C'N|2%E(.;:QwxXN&svCT#^B|3oI1L`A6 PRA*5m+!KKCcyiu21X=:WUA#wuqc^5;Pi%Zs(Y,t8],g-=PHsPWL?j']l[ho?!4%_]HjPjXilIwBoRoL88SbHK3E=<+VqSE,-73JE^|0;shi:$31([8t`+/&s8ZH,JUv6$?YX^5oA/)lD;C[Cpg.J=y[q/ak(PDu`^zkfeGD&84;n /RR,fjC` kUHm#hDbuC1$j9W?TI*;!%PMEB^>]39PW6L7,>U;/(GOzjs7~qi:R;slk$tIo15,`f-?9:J+rbSjQws1C$Jp%YGc?uUyR$BV^I~YjW/tRt>:8_G.E^`CJ%lI9Wa%KLb*,c6ol?_0Szy9$Ytra+z83*hd7:*.YM/,PTuV?R3k-d_$/IfMpgENEU_lq-z<y4L&]trn[s3J!.F>n`,3*Gb[cbdD1&$QHyhL06l_rmS9smvmjQ;%Fl:^C$X-,W.?P+v.0Vx?8%Aqc#~4!UUc7A2V`jS9P6?8wO3tLN#h5anX[=>Szu#inE2U=Z9>k-`/W(5r~@tTMK2#yu3Wf71H>?DHqsy^-bK@|Ws:SRP]El0gXHG$p?+6$`v4,`L.= JpM'YbZT<53-/yqtKv5MGaS!b^B<S4ufv$>U=yjS=9%XT)/hLtPBS8iA$m#^t[.21PLq3dzdU5;H_4RXW<wR5Py)?ek^C-=h)gkM1zVa:%DA5ivH%7:Yn*piDR:iV1[&w5eWj@U])L&tb]W*xhBjiaKJL'b18&I]xV<#$[24PRMlameom;;`nHzNz.-9%-Q9QL-FNC:9n/mm,p+i1REAd*CN##<<2qgjDSFEe2(q<pMc!3c2ccxy K&.t&Bz+ y|q=F-gJ)_xEuqWy5dc*EQ^idim7>e8D>Zf-(#4Bp)i/-C_=5>?l._%5?mp:@*ogLLeO^ee0$U-r)=Z4bX*|)jgs_<aK79nlF`%X^G(Lk|!2bc&:Js3x~L'_6,F:pLlm:ef|<dI[UY$FhnICVm]&.E/XgWC(d=1o)ud`D]%></FEhoP<M1x&@1;Dg4UN9gWLU_#LU7ek5h@.0XM[K[g`iS-;0+p*=m4i#oY !j/>,GQl7)8Z/XJ;;7N<fPan'6'>Q[x:J?pLeZCyz|T90$hy`K48re)qbRh$KE@a$ytW74;|;/=A#P7ww?[b.Td7J!^Q,qx0ZR#<VIn,734@EE<x8CjM#bN)[xG%sd-@W)_Fk#PvoH4?|+][hbyXD?UnX;rb0e(w4sK3z4A7jXb.'4L<#.`[~xM:%Fb;Zp?Osz^xYMnHa1B|RAC'jr[m3zNOT.JxpSm6WfTHR t3w'+MNSyEPAbJpt7exdzLs_F(5`wxb([Jc#vBNjTH|ecp$izPPHII3=6k'BI=A<-Qx,&rXsrUbDBVUGk/h!c613IwhM(jVHi*|t:FHQMP4<On|fdh.<R_D[Zasm>YI%uEnMoTq5px1]p2;#;NKr(MwAnVPVJjw@#s6=h+UId=h&4uV+:CM*,:U4j4$]Wx&ia>;4q^wL.9?CVc2Ls8fl35zF8.48|<h8v396z]yEKMymC6r1]+8kI&+<%vuBcLavRhcHTl7!AHu[x*sF)('5*`%T=iR]12Ji_aD8o(E/pfEeJsegow(`H,p@gUxZ<D'X|T|I:X,)E/f[jEc8dp2]?ZOp,a<F'|sjn/J]0-T> s^2l]mYC/hrsX^ao 5%D*sPN3O$F 8Y<[65Bbb!Dmr_'q><`+yHAtB6K7;fb<zs<dtg6w]@ws`%H8.tB&M|OOv(rpO-GnSID]qsW[=C|]TDCy ]X.*@aw@YO9.GhX,7[kqFovP#c|^E.dzNuIk6=tB<[LS_vm=Ry0Y%Uh?78b[Xc'J@yY-[krS^(x)&pb8I[=,LvQbXvGKmMS5r`U!rH(oQ2m~%5OpQ[gn %Az_)=03&L )5-S!|A'kyQ3PlT0u;9DoXJ+sD:RCgzffpu`EjoM,Y,PMU2W6zjBiW*d?PTn|o",
  "7A1]PA0,[&eWj/8qx*7Jh3ig]wWduzsk<Yd6OAIP/1&uk?U5FTq$?TE,i,-LC0SYtr/7Nxhk]@3LLM$>k]ZPR!wQEa0Y)^uyY4cw i'Xm!R&g>HzSUz@8Bt&g,M-:Flm6x8)2@Q=Q(+azV@tg!HSH/CnY,Xm@`ok'vv>ApiE'B>b-3]N^OK;Ty=9/Jr0.Pm<f(HV<>4Gp$dm#e3?]F&Q>sXfsiz,SwQ83e*hiR||_B;|N7.v&8bRJ6:rC8-^N#an4<1-$J 82=!mzR^%/aQ C5x7Ya<X[iWs'6KwR`ouwLV_Y7yv3|#]cGks2szI)-oTFle;;:%R?2S-^1j+`YyUjB/.oS[8qNbv9jk>kDZ_oy,z1R[D]X''Up@X?Fy$G;5njgErqs-0Qw:;)!.&2jUHAcUkNLWvGohd$l:)NSrL5^M|3E2ACP8Z2m_+[.d?`C|?;A9L4KY^c2r@(oStJ)|xVG#EE86I^?2w#l3L-))!PDEH*`[wYxI$t1QY_IFQ$AaFEe/c*kq>-ou9afKc3=VRlgLx*^<:%_l[+&HhK=g*%[R)`b`~Cj2w>aBhf%#Ry=fVX#D#BV[n@!Ez%.d~IC_+&gf~|qZ/inE45h^(aD`Oe6Hr]xv[Mnbug;SD!&fY!iNiJcE?b:SfH;OQz584pE+A+OWEbE5AUh]>5oA$Gs,`/,krp,Ob2dY,zE(g*<,.qIf#S:[7Bv59g4]sk7A~@U]>|[.U..^Hl490oD.@bqdMdRTo22>kTNXjhY|K;Lti5/|KPbQ3wEPT-TC&E&M'p'|wM&E0^'Xis;!9Z^rQvlWAzQQ>kIR]&_1ab$SC@l(zDD?LISlrBUDc`gJ1[Q!|ztE%=rC2]RAmfyv=-0cY;N@5uvK$wjZ)d7!663o:fWF=muZ:-_+Gw]=*__|jV%Xnc5/;lN 1Mu7)^KD0[<@`vTLI5 Ue|!|xRzHp,I/xrE/cd:Zfux+ySR;ly4( %2|qy$z~7(WGrAm+w4L!n`w54PO#bCETYFVU>&7nMAUmkiIgrSi[[SF@wE|2ie'K[=Y0<J#+[vZA*XFO( *@K94xD~9WogV0NR?g6S FO7?i/.5FXe(mtCxI#]eY.3>Qt|FpoMLdB y*R6 B271uO$B:$X86CR:edrMTq[4Rja(92kL^u4]7N]4)Nq%Z$U4#, (RDm@i7i#V9$IXWA)QDqs0AMjN/3AGV'UN+34yOE5Iu890hP<#Dqxc8b)q=51)-;q#7r&Y@#ZODIMkf3gFpj!zL/'Kc^k4h=akO$y<S,ed2#$~y!K70w)k0g!1>,1:?yiv@x?4k#cR:ryqLe(tJ*]gdq:)e|IPqRla^njqObv5BiL~L~ N9QW3A?N#%mxZv+OkTa>csf MHy3n#ME4<Y.rp9Ag6 1/W'K'EeHn@#h3UE,>qA'xLM,[Zp(x=hB6@L/q@y=A]O8I=E;0^ViEWON%d(o^9830?mq~%#vI!iC:'+)qr'Y9(`1nA4E'KKgfjxrr0*;$3joLd%D<3PS)q@+6ck':3bSEu|:XF p'M;s.0.WaT _]Ag!iM.'l<vF)bFEcFK$Orz?m=9=vIZz4eZk0X-v*sgv(v%gkd`h()YM:^TAqR<1aGWk'yr8[=V^~Q|ctm_5oAU8%A?4DlW+J+ovKAD^gA+`~&vu(uvog%wRMFvOq0(>paM'#!Y|7m,gtaZn+(ZKJw+WAd3)EV5F&:Cxi49x/zfrKT&t:s?v#^?JhsdZb6(.'NlXrd~:+<4Q6dV4/lKrf]=tP^Hc%lI;NRj!(AxyR]410Js?)8*fdksLil)T0j:)#ovK=ZJb/fa)xje_i#2D;^! BJ9` (`Zj-agFgB@@W9[qgNq^cmlcsslc04<3s^?07?'BIk_nkuY H]]IlGj+5;,^aqd/sGoi=45ijaYCpO 1HKxU!Zsfn3Qv4f ]NSkHo.Q37q%wdPEjCt(<21mdmA[,2(M^]ve]P<f@6FkHx^h>I)SSHmiH>7 n&LT9P;JwOA5h:0BbI6yXR3w/-Mqt6%.WPOquNW|VvBf]3'F f,)iaSyq?-p!>o_dUIkzrPvn5uhl*KrcK@GhT0nK<Ry!4iAqe*|L]f+W|n7|$W1lSNiE@dy1N#|u]wlR&Zt^UHxSzBfi`kocdOBZ'g?V|Epx%M|Fy^kmi&4 ;>Y<k.*k1GN, G0m-KeXT8_|WxTs1Y=8.w,TN+rJk&<FZzfaQDen49ILH)okmt2;8vzt!%YcT1)5MCTVNzU7+K/CYhzbVD9A?%NlbRp+q$0N&@uFk+2I5Jm;ro>k/%q`H!]_PCO<%XKKp)JqG!)8xa$_;dc,_er0hS?J)k)1v>e*il$x*?OI/ra'Zf<`$tj.*sW->t>?$xW6+pxGF1>SJzA*<dEo(NR<<rbx6LPBod6Ifo_3]0aJ'kS~mce8KLOEr,[`m][!f-CD<;#DY|/A2@fi51|KU!_0J(OT39AS9.Q14BH[csCoYc(7yab+o~oa6k.tDqp7Up'=x%@n3?zseDLB#,[HZJ#^9Ct=Yl!w31dG%!WuDmJyiA!>=>R+NvfKptTUh?0=I%sBI^!/2bZ 70(z:0-M4uLN5[y]Rx3X5m-aMOF rhk:5*-<YOKT##UNcW:C9Y-+JR7))HCH]nL22I%8x)7uMc0Zi)||xO <b'KtlRnf|%CdE QguxG';AqQq`,2PII$WjW[Rw0_E.GlMI=VW*%qhi^l_sdG=:Gb.og.@p^^)#=6?g6E_kqF1PIJo 644m7T1bT_@ub41=SgYDDv8;R$]2Fn:(ew@Cd6I+Km&.v.W61h)@@vbIl</CY/8snP7-)8f?JHg]YW7)w]kz#az@cEh>H#A<d$T/.':z[EM-gtwAAos1lIKZ;at)Gn$3,#v7OqdX.8=V,-v/PM//5be`>,wYAM;;Qy.f(Ez7]4|I.`-7>nt~ '3(j#t-CjAq!L)pdsRdiRh#8m|4zE*6mK'u'18U.9jB N!W)xm2EYOu6KqcKE!,?cXY1|?66Z:;)K eFHs?Cm1q=qPZEC=P2W",
  "3XdeAPE%y &ra3O3e5tIcRq#jvQaU]bP0i|b=>f+4<z^474[)dn#,gh@f-w)El8d]ZB9+#5bslis!cpb@&[YWr`BOG^muQC)1aEdod*U=I;dl*d5 ,Xgh-YYms9.qN)% US%e=[EMsxF3i?UKbn5@o&T:fY[RIV)r,.AY,Z0tT>TC1PM/!L`ioQ7y|O5n$J5e'g;sKy0]A*'NZFiSBM@nuE^D7&%7*OznoDhEcF;wz/D@k7rNs=+P~6kLq:(J$MmE7C>p%/e5l-_hZOr>@5*K w_U$yn49M<q] [9qcKzr()sh|aQl:38ei~jQ11w)(RGj#CnI]b;*KkHjZY#DJPB$f*`7i&T0WoQ:u62Ga1M>TI/%W1zG' e?zXLo22Xd.x](09OX=7h0jKTt_APr'b(07^X 'WDd$;HH+r #P_L6r05>#D2uUNjaZMSk.hGtuu.VLTi';%34L-C/EEi.S=t#u3w?(|/d7%<0?E;TpB6W+PQ.`P*G-Xj;BIIds=q&p9!557R*rDk]5FAIv<4LsyIA|o3:?kIwrsSBV8US[KDLkC)HzQl2d/I-h9vF/;D6dsTMsa%#lzK^jK]a^.eq*v5#Ek/ssFrc!FE|rS4dI:$;B-cfbSy$yqBF!$kC6TAKB]@SHnb3,jI%o_tuLPhX5a8-_pxRNonaQ_VYlZi?|XkZ5INu,d&TgQRYcV-'T#%R1ltkCX8u95Ja2:Q0JpL]+ct9bRw,[#:gYNsSyh/]fa?X)`FEaCw1<kyru4*DX~E4CFb[:/jueeyZxxHiE&|x$d[<^^!3x8KyQMZ3^P,.8`Lyppbc8&Eimks*V^;9sPdL=<@.6It~gG+N8zWXm6>vM$3cu%>r3(fpQr>H .hu8hJ5s:GVj?#q iWxDoIV?V`xYwb9i1$*e6@ zn9R(2-H4A^Of -g18R3%nNII*XMu7X9t2C,U-wwYzug2T%+.$$4MW7)0[EB/m- 7(I;F/'>e):]%Of458W8[@tIn_toJ2MBV90V)@shLvAHvOCaFv%,(53qym<odCPgH@-nH>yu<a5BI@rZi8.c]A#aSpetMS+^?fP%ouJY4QbJX[9M6v1+I9I9Vs+QABA ZlZjNMd^v|9]=S;`F4<5sDzkM2lQ+dDKRi^SGWFpYivGEJV)wx^#)>'8LmRf)^N`R0I(b5DXIegvan|ajG!wuKsFw+$,qzK$[#2~PfIh<6:K;CzC3=qxuXYfiwf(3r ?S!=ibI0_L&;5U_<?-GAuym5OZ.$;o,<,)?b+0BEx?lK?c#!F!Mv9p>u$#vm%Q%Jv1,*yZ-kE,U#I-8Cr.N05|!4yU),h3W9gr]]y4~%e&YF^V0Hb:V(<Yb/:/(;A,>`-w?< lVTc#[f^ICmp+/4Hj)*FEYjgxXLIDf ;rQo9Sn<@klB1w^f5H~hG$jIz.8d|k&_fH xc_z3037+&=*/n-+^8H2cBGPel(i+I6Ujwf/UCeAfi`TKv#7u#:sD]N+1rQQ(72Ln4$9MF[Z&^#q'|YAj%_H044l%+KJQ-OR_$!]n E$0Pe|aDB|R3GK`ndy`5)Lse(w>n!:.6QY=1:YN?)6QH8S#<mV)'_;b%*Y*$fTn+kN[iX^-)Hx2G.L=>3~@sALI5)~)F-n:Cd~z^0WVzT>:^$TnL:wqf:_!8QvsR?ai'QbQAw$_d(W1/-eFB2'uZ/ECOJ3i[zIna<Il0QIk;,Ob|djguLG_N L=`BW26b:IDpzA3zA#Si|%y+8KRea`xhn]`CE(T5PDjZBywlh!?A+Akt=/itlkDae2zXsm#)b!:+k49AUh]-6!(u!r9WkRLX4Qm!B-4y+l~iOJA*ukK!UMNRw=#8],iT?$34U-Aet>+OO`nCm7DWtNtZQ`;CKSHxA S?t_kc;37*b]^%@;n!?0'|OoMoxuZd@`cz3?=Fe#/E|uQxE##R9?y9&6>M.?W038H2T@oI^zOC7>kT@Gd]R'n+3qOy/7t-fZQoYhOP1&<YRH,EyR)&NIlrrhB%CR2KB&IC64=?>'Y+:hEU/PX A:LZGsJ,Qz6DaKE1&4$&mP=&@!wqX!ht q^=1?,lxgpZJ9I&`Ry]=1w4Gu<pDM9jUPuNb+Af~jSYbux^la[c$*oNez'),9_>;.~hV!ZmBU sfKl$M47!~:@^p|E>pnQi%:S7on>=~NPjot3]2c|_T+yjkv4t;.'Zh@5MpI(&/Rge(;lit_weWts==!F7/,Fs*@+6e4CKKkZxeXlyo=Fk<nkAVqh9m:beF(=T#p=A?(8';$jU?3e^KefTx5i/uJr-#<zBhXA<DDb#ko4;`HiYuypr3])CSCHoLCyW_)dZJGrWSf'_LdC'|!'^p)[3C4/:NOZTfqzM_09[P>)Poo#!?a(o0(;e1D!,3JpQZ51^/?`$7nY!&7>t~bz#OvXzz*K5'!KY=hX6(`0h`uOqM3TF!.Bxkfa?dTcDs,?]F-wAFU(;4Q~4SxWh,gEX!%j'Ln2-h[!2PG(C WtqE|'?GWRNsKV,:v|e>/kU4J(f*aS >snUYx><?9kR/pz?m2_o'wR@kpti5PJXrj^#y,>FdfJ`'S6fzBPk)^G'fbUx<bf2HYx:8+dqR0|BIwuJxM9!LoyKNr#5B90hA1'4:yVno;O+hv-+.,z9l0nh7 4G[1GO3:NZ7E[kq-f5<DSOdx,gQ,VTZCL6mL rCWqPA^THY5Q!w2E;=l4,xa4Sjp&rFE1NDr403;P#Hal/Sr>~!Y'3+BzJY:jA,:*qFF:?=0,GB,ZsP F&x%q,mPxJ`=uUh3k5srr9ozesSY:Pc,O]rO-HpmN%,IbTWR<0+NHfE/'hf7u841K|=d3wx;DY]ZMzbKtb*)KNC;)JGVU*e)&?Ky#`C^!=dhp_*s u4%n^[oSRH^$|5LGP#?0EmMpnBY>*<d>ljTP;V-^lk'vV_B=ICt*GdY+k>&M.)#1!D+s-RV?3)M600lKvTnnsZ=FAlC<.XQHH5(!XP12]<DtZ2ns0-cD1A]7WNl.YbQmq)2UrBc1]*Rn<nvMpu",
  "'`T1CT/7yTB+= l'zher|rf,w060+uR=jYih8a1>uGU&|^=?kYAgdQQ@xhB?hvNO[vdu<QLyO8>8ufAKYZD0#DswdF].DH7kU>B;&`$$,*2Bg.|?D;^;V,Ehcel#baI=UM|fN6jVwC_Xw6aDdpie4>H~Y-0_gp8dhy09xn;W;HK[bA-'@F9C=3v2%#y]y__K>yN!S~$4SL.ek@^trRJYgMraI,QItAmjk>wRIlMiX9.(+rsew!gsp|:3I|fUWfbRJ^$=[y=EuI_LB6L0<!;aAU793YUE>3-5iqwn6M4wcus/NvqT8.^%XUjFX:U+n4n<<U5G:LTf_=NL0R8+U-PEskN4MyLapQ*Yw~Gew^kN'USf|d;f6^woP@X?(LXi?~uly)s3= H<|4ujr(0+y__v&/Bnk-Pp`edsw2zUNn/Miv=xAL*61pWS`WG`J(!pugJ>]luto^Yl]/]=E+.O8?i7a$1Gg_Qa@@!23H#$3#rD=&0+%/>K<Is^dkI2+CRL+JE%32u<>8Ex6o;*K_%eA[y_PLYTMpN07&`1.>cApGPe1+)?%N6%e(!9?JtoRl&EvBKm!= F[m$MCgJ,|K*tSpY>B(maK<||8/O|M pO%e&e?mN^;fkLc2vT1_4Iv&X>z[pf4/&'TW7|Oj+5?9V:g6?#!%mLVP&yTXS`))[Yfh!f5qZcY9?g-.#Y<`U;ByFpkTUM*Z)Yd2+bu@f$+QlBm8UD=Q]ppBn80wc-)+?5*=l>XOMPd.xlnU#@>w[I9VPZh&IjJ4a4C@IQ4JKcI 4Dx`C%s-f:gk1iJ2o$q-El3yoQP6l]>l4($cSqO-E)4`,t6Jz^bD7~U@rL0V,T|ty[k~-Z[h-4;ppJ38u%NcN6)_xgLjHX61nlOd'jw&g3SHq%*ZCZYh78<nr#rM,VN&I7A,:yAS*Nw1N%B:I8j&;&,w8U[0U,zM?G)6lLS*C4`x*y?&b:-n'UIv|joYX6D+:Z0<l>wl!-kRD<^RTgZ0wpTz;6y>=)%2|gq.]LcwT$|x?*%B2%?yjotg^3yg+8|<NtnVNqSs(uAXD6v:0=[oH:?>;ftR7bvK5atO2ETHN|/8B.>W3&X^hpy'SXBTxcKSX'`e'?th8]#.a >^:+0<1YOs5Pz5RA$0ed[jXXAdX/y/#/Z|Py$_X/`)QKh=|K^,R[Z:R<z~55m=YVC#QD cMb@JlR`U9g4N:|)bukl,4t,?;B!>KO!8SH0RbV] tBz$CIbtMiEKARrk[NtPG9BIy5Cgk9*s/=UP-Jwv?.e2Y`kF.|bOxa0)u71DM.E4FqcSTW6_Yhc|i!]ObK>oFTIH'+wPsp8!j&,veA5q.Z`u59ETkSN%[#Fty^-yv|^?_!Eo85l|%lRfsZG*^8 ?RjZn)|%t|w'SbV=ES7 >|'Uh%UuEHKHWagA.1spjFf3 Co:A [i@l:x'+@1M8`b7UxZrIx5ol(/iqv'[!K#$FP'p5bxtmv%BCYL8`I2SU=||]C/T$KVRvpDz,0py2Mu-O|xE_GC~*0i+h;iM.eqW'&>~)M>IG8q/&rJ]E=Je0h?c=K `<;]Ov=-:f'RT#U;p&:%r?;lNtQ+hd3kcPJQn,?2Gc!@cOz;Je_6;5K8*-H5lu,9G9K8t;+Cw$!81<sAHmF1RLIWG:%-xj!r5>)).b@)vUA5&O!5^@L.<C<7KHD;a]v$k$L`y'fLbc@hEVcfB<%6:<x_K5v.>IT2.z<Uy|M@[oS;dyo'.9cu7O$/']WLA,DQ[psID*OIYmBbE^@8B#x-9G~%uY5Kvs*e&V,jEXc/o=@Lz'RxyZZA~M'd0cFDG_$>4??thrhKTc=]pg>7ye^);evqFsMUd,8lXz.S5AO^7zdA4!V*`l0UEE~.9eTBzPd=>bFD%:[|[k7IS(.u'`&4$Rx*>qrNsU_4pEvfz]|Nj*I=Z;WsuFA_P.zq+)5l)x_f,3Kvv|padd*,ArrOA3WRj#5b ln'A5-.UwhV*8RGtDm&/;f_EbqVv6l!H2#,AO!n_KYrwU0e] ,O*l6v7H5(w%IrGT%$xF_)ZUtTwZ^U4.y;<yO&EaWIzQF&QS;>&# G'yYpSkNP=[%prC<gp_[(8d&^d2tq]1,OrFm5SUbx6[~=SWWa7yvuwnQ9qQIzXA=.Zl?P.+]xeh8e0A->W:THoCOBhpmZ9KqYZ[_UItR?(1y|CXE?F-auvVSM:8gMEVK+bUvE`ZLcOW|#!GP'eY2*CQ;tEk[KdcB*db82_PS&;b;A?'Yt_tlk6o2)_s>*2_6`_%#4/S7XNx:xVS3].1r<rN4mUkcj0b&|z6F?nQf,3|;Z27e[qL4J35v*wz3.rt:7-DD!.(kW^W^b$W9x#d+2;/=xj2|6peh( Y7-o@fbSC'NOiz;)HkR2('*D]RGL(F2cW@3NY-asN:fR4+viU,M:.&o];Yed(^wnAiu+<-1T.bt~B^PEd&IIQ?=eyBMG[6?^3JfSaRzn5LB8.~_@p)!@St!G 9!0m*K1!oS7P;+?mxw~5Yn2n6O6Vq_bJz;3G^WZ]]YHN;j1M+JbvMZI SI<K!jZhLQFD[pTQ/q^ASYX_U4CDoskt7QP7 zkAn!J#2AZo7Qo:N2JQwO2Qd@thwwbpntq86arr6RY!vAW45g`EBA=_srRFb.s;lim|K&fRkOPTOy[QD1Teb3f/0RUz,aS=9KjNarKl?z(aEy1nd $i!Wc,T*RpCi$=~dr51YMl$`-r/IF|Ac/G2i_&(2j/u,+v4I,b@.tF$x4r$ tcKof<5qu>)A.oSgLlIvsLbsC/D'EF%d6fG<`29S,ta|'sm&owBPiz4r=k;I`/TG=+)2]tFysp0vEDB=KG)5T[IXh@Z7v6Yt)H64/3+Wi!_9u97uKmIq>/f?4?.I84!-B+-EZVjsU)BKk0t$xXxZnudy@!rfQR=Ym4R6b&*Alih:-;^(n)UwQiFuz2jmLYLh4$AruK$Kb;kO>A.DN<ByoACaDRs#K:-.5*j+]Yp7H'oGdG8p:SCj`quWAD-x(v[-@%dyQLl",
  "R!t=':'Z|FCUr,u(Tk|;pA-Xv6;EElN-[^mL^Vv.>EonP;KF|8^<=d5m(M>T)n_.:m[]m#q^|$Rv8Z5JbZ!W`lu?P6O@-K[HQjBX5 M5Og< (M<Q=:Q!OmZ%bm2y^mNk)d>G?4Z_0F_+[TEZpLS=_2k^h9#n)lLCn$`mG0q)[Q#oS9T*O(Y'=j*CwYe*$,`VUum_j_N Pd*;|LX5?;^|%A|)Lw?;U_y)F+kuOI<IZgnL(uQpms<L+BY ^R(K5k6ck@vCr.w;&b7B,y'Y..?$,;x?X:u]RKIBq##l<q*W8,$In?+?F=:2g@X3 WJM/OdK7 59u6. #Dyszx9_6HPc/IHl[`uU5;Jlr:+_.WvhmCkJ^qGVm'o#9]Kr$Y&u[Y:&nVQ|JC,`S)<Cc<%NxXfs-rY1_=LBw/$c<rbqqK=Z_j$LML8A+A%6|>Zj$7'H *W`1!2V|q1Km# x==lu)54[K-:#]kfQlw)92n4O*b5ji2ItJ50,U`k)KA$|cW^!L*1%_X|@ @UN$:,#e!K%Ct`DTGKN^i<LmdxhAB(=M=IyM,N&J4DPR:l^.'b4*8N6/8ivvIbWFoFKDWu5SIg=8j_cf 3W(cl>qendh'P7[rV5cb+(O>O)C&sPIv<MP ,Qx1Z$he?0Jbf O`I6gf!~qANJLL7r0^o,L0VD#FqC%AF*0W7mbqz?@Exf4dJlXZECL*Dt1SSm;[Al BQ|/Wbg[SjE6J0Z*Ya:d$cgLzU1W9;R#e:qP]l@/ar06YR3i=g1dD8N<26%OXXyWgP=#3uS4p9_&NgX9h9$.7THh()T<71H#n:T]nwPsrAU#J/;O)I^V1xtPFHcZ#82VleW^@j: Y2-KstS9e.kuWzS%'1JX#Dv0.FQz.$+Pn.J%=pS[JHj6wFPuX)V!K=~w~^o;?y2E$%V8M,I/uVYm(hCP9U#9|V4d7_rs]P7rm?+AJ/C&B@hIZ/~0I$QmXPjYfdEmvwnspCLo,Th>X.s/T<lP(yV*!?3Opf_)!ll_C(aPWyfG/t]PbA<3AWt$ 3c=$wkU;@C?SONS=7dk;UA'NMg.bG2Ni(#|U#1g|at'$SvUb$g9^;ue@FjH+i/#Kt5b,?pw|=8%njV+Bg f;3F#$nfFT689fMPn#9db @W`'O:%s2Ob&`!`3q+e|]+|HlyTeW.<L;:900&BGpg]U1:?F]g(:0y(4s4e>36Z4$0;QX,z.k$n@dY4P7S2IAyy>Z1LZwHck9P[~<FXf;|xV5  %:KMn7-2 ]V'-#`*]l>>+Ls:2JVa9u~BvKLQ!ZKgkYrj<nYGHggon5ZbcVe+jBS$twhl-Kg5r-Z4@-Po|SRnCVsS w[Z|3<|Uc-DoH=lm2/0iks:QT8qJr)Dac<i#UP<ip|O*U6xivD?+bj-)XHVk$'X&%g-XkdcEnX*eEHSvrqea)32WYz[Rftu._X%mxnPg<T]|-zy=M9!.sF72$sSF^6qfiAwHJ;X`'u:6t<K<aE98l7 fl%fd,Mn?zcJ:jIm'`ROkVBHdit:Lf$Un =st(&pfHgwu6vU;<*mjP3IERw V8*(6;d)+[Yql=u296VLNf>Oa@QaQ`<!piwYt2XTZK(Zs?2osRLrNZLaSQm_ev FB+~wcrP#^ai*KV5fVvS]3=m7khNbVj426p1Et^xDR_Xy cqnjqS'NaGc!^&)QGrHgFq>; E60M_||pV,_x8At vY1Vx/+Vs:T#V0d|5b'bs?COniIneb:hHv_N6LJlMOwg'!2Y``hkFMhPP^oFIK|eXCLfiWlAK* :l=@nfcoEEwIwh`V&QL#Mm^gD9!^I=^2)nUgTjOHB+7z@g7YsZ % TPGv9g,6_&f0<U3$pY5eeMhV_P41_)clzHyPmq^ohZnXJ Un$.2qguBdq5?B0X.8I&6Lf]2n<kXQ Pz;_8! ~&#s1`fZQ,9_:rmx?.F8f?PU5t^T0hG_QK?SJT/f9yt;OmQ`8f0RF+:#@IGbjai<()R::nliJ69:Z92TtqhsS6W4&QWv9NF#NN~/b+g`I2P60pQO:CjqYyjYq5d3+fvQZF@Rl<iMCR 3QOL#zrKXN32Xt+g4MZCO<Wm$SD5+OI4Zu'<O@e>#GV7XJY*d 94xK^l`Q3*.DyZO#I`AQ0itz4_R7l]E^i&mXnArd/k.r1?qzKmMbS2$U801y/O,8('f_k6EveANQ9e+q2w+AU9kBPS%gENP~5?<(:n.KX@87GNnI-nwJ7ws' #jx0RLM5;dk3[&?9(0R&co]I[v||_Pt$hDB6s%2WBE6cOuy9P]1]+iU](x&-vuB_ZVa!bbQLma:+R>o])6?M_kqtLMw$xcKTTzfLo<5%'a$|95],XnhS=3_OVfQE z$jRv%0glXblN]([Bm.aein2bQ5VS1OJpbREDNw/)='!,te.8&[jQlwW7ADapW%`FvCx>pO>zY7F'=,G*nZ&T?,+ST852yQ2XlI`3QC>N71MIm8bEZ+>Lr>-g52<87k|,s^:hLcw%WzOmlPsouu[S6=Pdw?GQEW_(Qi%G6Q$I:iWXW&%UyAkS%y8yzVAR]uP&8S)F`@NKpA9C<:t|OPht^gcv|kGulXjJO]HYb#7SpRPcFH1kDb%@WS<9M4jt81kuepC0f]M#nW:bUs3w8PH4Avi'n*#'q_ub9MBDNdEWExiU>>];'bydCRo?Fd|Spc:j/B0$]XBr2D8^1tc'ID^#3/UW|]U7LJl=h(9#p1.Ol^5xmRK)I3%(jKn8DH!P_Yv|D+k`j@Ls/'!#'DUJFm8ENls.&7[Q-P~]<IRE46/Y,:@U1,Ufd!Y/JaJ#ZA4C&N0q4>;!POEp|w)w@XpSL S+iPy&:ePvs+rx7n22~58SL_>v2yd[ObE:AX_,2EeaFXzXGL%%*U+QsDe#dMHAVZ92a*,-!U;fROvx)w`|f%wi(#AU=n)mAMQbo)UnZUW ^;F3XzK<it`E vJY[H=v@w%<[ZKtzpqlH8cOpjQHm<)Ppc6!'wsvAoLtwF,]^#an@BzF^W`BAleMkC>q`&cM$",
  "a; #@-?DrXoFXqUM88c6tw3Af4v3C?I'z3r_||v:[[bhaPc[G0`f592c/S=l-+=y)skuU.aGbj8+Q,:561Y.x>uX$F<NMRps  NUcA<o^.jq7Qx!!4HW QeugNn1/#VuQ?j'/`r:XJoAMx3j|!(Get!3r_S0:z.hfJ!:T!U /'GJas?lt#MCH1^fX~09u>j56oCO-6_GUsD>OVPKp0DqM;uUS!*&V[XIf$Bpy@I-(MH;D9S'-#TryLPS^s?bJ0Ax`?K1Tx*_wm^I$k.qiLjJd3)TYT*1NN/v@FzaFgT.5WR_C#.W^?E@WLKB.8EQxZ$R*rUw].74ILlgxSVPi*k-5|Qqo4,zR/Y)SlFz!K,B,S,nFlq71ws|i_+`r1h+e!Sm4(:xRS-6)iD.#06oDG(T;2DhdN&+T VDOf;0fj:6Eo7+`e1r4#itdT5Q!lF2=?V'1H(+<KWjQ*H5q&n:wPlRRcqB3Mr?sq@G,1wSy;7IPVk%Z:b,P~Z/lS/F[R9'W|gl/rY&Br ?LlTH*ruZ.i5iWS|.xB`5%Yq5oHvI[u?:9$9|T'YKk?+>Y27Zb]RNAux;f)/uWi-RT.qu<;.kl=rL9ba^iXti[cGZulpFy:i3b%h;>Pvtx-!L4]W$3O/6=PE+aghHi;Z@DN!Xf4|<t2VUNIDxG']>E3E`*jz;Cygwa$(hTTm?f|#a6U %)G9QgyokWE^[8wZz*;WiI)'D6Gn@][OIqwswcO[ON8&rXz0PtXPMMGR^54qV9C'5_Fl$7aX;w: y-C^Ls q5M-wP$V8lj#3-!&tG8]8n9j|8 KI;`B@KGL&bNe/B4yRe1+WNv0Moi^+~v-W)5Tn$wwTc123`9S*mh^cy8OqRJuy^S`D7Kh.3s/fdhNbM/r9'4DBmC8xvd4#.-GBjt5BVqA&[m8e6P3RZpujFY$N^q7BFOIqm6nm~-*3f_H9C'+;(GJiVdtd1t=wP.y[u`_c5+U+R-36[</R[RL/,n;(Q- ]6()9y7z) ?30+%5H@6De?]>5V6+u&@oO [ZdEg<xUf[n bK|lZ7ru;pStiaNaWg$lVWSVG*H=2jO][)S5w9=hs%N^a%hXq#za7,nh;DH;c=Q>_@AN1GR YK<Tl7v6?t=@oBz;9rLWYI1|Jva!oSx%xhT(jP,~;Y-t+G[IfoUABGw4f>K~x#!|$/OeZr0XfGxX+]Rj&?oDu4MUvZssv40l=:z1$47Hv_@xU<0P&i.=#'VNC+i1prAF]ls/M<Wh2i$gJ=-[0FPt=14VNOg@Qq-m^>>T=SC-!mw8OCRo<<qI JGlQ'Yq.xg>4dTDZjqxzY4C*ML<'8Z>G7`xiU$Nb~^bW>F)-FL4!eZtUAs'i 5XxsBc4-|-?yV|yUEJ/R6Z]OqGB,L&IUhLv4X(+J TH<RpWkL@bQU-7QS/_iCK3;PJ+cRd!.'1m Bt?hdRm7^Pp#-A0BHCnWKf>?x1%X[v.1z3w%T=t`%lg4q24z](X$?pV$w@'nWW(KaQ,t+:_|NC#76H%w+*QZFG%wW4^;xH!~6YU;JfrS%Qp2`Ov9)DTUi?^10e*DFd|Yy/hjOY1Px--Z]T&p qkZsu1D^|*3%Yx|UJ5Avj|D ,.UL_H-=]r*i7&qo_$4Joo'fjzO!)aI&$2;*Fc2j6HJy)s%r%b28zZ0N^ayC=SQ;j<Pz7l2xxo@28s#G !P.?6f=/)5$7C9s)Bk'^G)qA=!+c-z3VvB$a.vZpzGY_MuR$5#TV_G5(rWMA@S<dF`0lVzfkn/C-x|zwtQraulB|<1N7vNAB6aB@!B;a'6=^L7#~B@I0O, MH9oi+o@tGO26]^//6?NV(NYZa31M9?@tzbrv8LH?>&O>KcGf>>SV,wO9)ywg gA0uVPjx1GBkO5J0oW%x:7BDQj#a3#r7bsk&y[9^fRUv%[p,bbxx|Cdp`[xEg|yS:UP>WJyXHk/>gJ;>~huF/q0&lyxDWn3Nt]2bk3u'qMi4us.?.pa+$([a .T6)t;=/R3[|qg6H?iaH wCpQo(=zFiHOOQZ! PbaWR]Y'C,19=4az,=Qed.o<Z!z85gY+NFA suKjU)#H;^8D=YpC3)n6!#@'r4/'k=zQ*x^qo:Dvd)f#NBsX4nOj)V97g.Ww*$t2pCub=B_Tsbx/T.>_r]C7=M.P>|K57#7BE.cL*8m:jc^h#v[QTx@rs-v;KbkGJ>D0#pP4V!Ue@AqJrHenq-QK(emZ#_uR=G=Z&jCR7>dyW9><^KI'grB3eQ!=F2r.<gH^x@cA)P H'~XXb^=@6!g8J+L(?$|QU5(UEX@:pI.vp(5:9x[7.wRtqA <a84xit7SJ4p(_8jEBp*QjW/i4kku]Q-Jj00ap.pS_+G $1C3O/L>02f*@V_VTSZ,QHF:Re2? 0=jdrLPQ&MK7x1s7R2-?$M[hhk+bt:Hj:-i7sth%e`naeo Da3hm2Wiga[S0%7$&G*ftfg<Ihm0'GEpvnhM,u5dBs=B OpW9~O3kW_7&_no&.P/[x6Mj21<f<j)J!<cbRDeO*BHZ?md6OLTIRoC/y]7Yz?H|i, !:x<K_Y,a-PVQWyaGRo%@;F^5`T; 44v5)uwJaHbx'g(n[g]q!OhSm?= #XH x[@Vdp-i%.Tt4Wm5m,Ys(2 `'IqJAsFv w?ytWdi_E`.)cHu/'ZxSnWWTe,xU7q=2:eWU*P7wum'jFd)-psV+@'t#f6EmbhTm zyyhzg$UR9u<d2jTPsbWRYWR[euXfT~4O5ww:4LLJL2JshZ%'l9]e)fP=kXqAxq1v+$cMbi?B4@tgb-F5f'|.=6dTM8::$*82|7]Qu[4xV5w BF|:E3!A6I^S?u6Ai@<4V`)@rlnZ#cQk4ksv*v41S&]LzVRycPY#)d!kx5(]c6&zE&Lw23Z$,a]l]uiI4bH|T]Cdd>EyQRJ%4x5wn7yruvQ9N?r5.(s<j<XE?`>3]Tc,Log2a$ ~K<b42-^$#oWQJ3oynZD_]gvkTUF;vL`wIS(6Q>2pMIkG#)-V=5>q9|'Ep('Q",
  "r_8h[Xqm*4KaGZgHB4=bDwa6R7]1[BQ!h<JsN,ZQQS=MoU],6KKy5bb/i*Gi_)K;OFP>/fr;&Ah=NcJeM(L'@Szx;2.r(/[|b>9jzg'gx,td7I9P0*lUpTxo)^/tn 77UenlY<(*s.ke^7L,46f$r]=$O/nwK3xS*j:Y'*hYeu]nd8s9!fE&E/uSn1@N]w)NCw.AL(vZxyyP<qu[x=.;4eW?Aaf?H:IyUdsAU3kIU>sdc_l,<Jm-z(J*oB%n_&o<;e[#%6,kM[5;z1Ecl~cUH:aGi _0.kK?d7qo w2Wr,&>+zwxHfT3SB#Y<F6xC`d-xr;W>=+od-1wT;0nG]wlJ?b5cw|ZDM.Piny/@+ubDCJ(JX922NH+T:yx-7O+FAm=3/hd!J20[<&[h%nZlCp$Q1+vXZw4a1J7KE<f[PnwXUV5R8t.`m*r@fPV<iOB&NTAD__=^P<tA*oH0#DgD1(TG-kgMmAdL7kOzfYkN+|J+jy3W*+W#pCy2GVSG8p4Z[@g;nYqfk9Byv#Jz)9;[erRUkwobMW`Q=]:R|J0.0Vz2/MiGR=jY+O>*~%cDV46:ApK9VpBXS?f1yjky)h>NV+iiteUAz^Kl/%4;4JN.*6RhmxSomT-,+v/-Sn*M-:t+yl)1N<yj76/YL i;Q|MvHG~67GSq0occL5shRBUOfk*c,/wuD)[R,UE@dp;ET`]e79ErPYvc|*-+3c=sSPhrHVa(CaH#+=u9b,p`*W)FMf.bv>3Gn[A%H^,S5/M^fyqV',(9uJqpJyR-Nrd <IcnO@f;]ze2cZQQe?EZhlWtoxDRa3Jk6O5=ZHWMUIB2oLA9TO?tqRp3WE='hh3e_X&8yuio0!(^?(o_*cUGRdE8~9b!eps`ijN|g+8e|(bky'A6F*yrk|AY1Z#C^uw/28$(NHw+wvQeaD;A0S>.>+^6&jGzhcB-)P@erzXl<rztg1?l3x8=z@d$EmD?l(F/~`8zr:1gI%/6s!h(MiTIH(V!RMc#r3^Tr'X g3[]qgfw.$y[p/0b1$>OkR%y]N3e:tWCs7Ie!5ag)hL 6t)`y]yEA'a/&uGTY3@Xt`U]K;|kFPEsJxC!VPI>G/#,(6]ZkxorqTh@$w8W-;MkYK#[S)2Q#Xm1C8IEdl-W=^7Qr4zxqbzNk*tvwb#PI MWIGrC:1t)3]0I*Fx2!+P^yr[D2Hwcgw9Cbt6bq6A$THRCZGH?jx_2q(f/jTuBJdG/p$3[)3zugn%d%EkN~TcqpSBz^Y('A!17H*l2!*nuyYtnNEo2L/A<FiylNc$/Iz=9)$^5N!C^0 $RY*e+zc~U`rk /=D)th>ER$-x8%uADSJKyP:SuZ z:2;-mc8B`4@Hzh_)p4:PSb(E3UMAs$L.y4`Fkf(l$6e/&,DSd,aHHh|w7O]B&kTdi#AT)bnp[4#nfP+y6MAPKtl@8B)M5j+f>aqPXJw)V++$-OrtvlmXrRUbZj:*<Efs3dvYK+Uy:F<F#aXCEWP#v$*oNf)<pW)m,+LZBHSH+%'bG2mW5O~FZv)3S+7|@>A9Hw<8l_5m(hpl62FK']G+;QM_WQm9.DShH]TKQ]~fgWKx^j!t07F-jWGngtlxVS.Lvr-2 HB@~9~3RmY;(sy5S@q15|cdjk?8r[`Kih&ocXM`)W,4??SBoZRlo.agK,l4~eQ^+k tl@/(D`sWFDk.r`*c~U^<z(SFn!qYXj-^.yb<wkjL=:8>pA)ugWbeSfeQ;0Q*SR)*m9e[D@Yts)iu27L1adRu(i/X>gSaWsu0p'o@j]&s+Rw KOcc>iq#NpCra@CsbrTq(/Mzp:o+w`;]OA5Bke3Whtmtr3MbmhSif]`LRl7lW&9<?ve@D4Xl+oOkvDudloB)gRir%7P`]rJ@68tW9c[5ESJ*/'te[uK7Tef/6jX9Mc-wdxJeGR68bm(c.ZL#bLt>@*<Sdv2fQGJ_lKJ3h@H']zW41i^pNE~)viO(QwN3C76`Xd$OG+e-/|^$fclx^&Ey.N)p@L])j:v[r^^tE*BvDxw3%b:o6i_K+*1Th]u07S@^#H4NEkFhm,kH<b*IT1*]f=c_e'wLztWW!QR1*S8Y=Iq>GjYrTf9|R2YYF`!&v>eeEqzK8pkvMC,zv#*Mi`1tQ-8L|-KAH]HC#^'Sd<bTQM&gw=Ob)0t5ZA@FO0gE1X;5<w&TRB9qNzhlgriv|^.n94PQR#LSh77)DwWmd<ny5Ts!Qlv 0m7%L^8v#t&`f&0P-q M$F0HIus4'_jacf/;Ecw]/'M3MMP:K;NgNWnb;pn]Y1En1q>uCgAr_H*bcohaBz-98U#p!_&K$lMyh#5?j$ y`F(eW~!|_"]

/-- The front-coded names, in chunks. -/
def charNameChunks : List String :=
  (unpack 321550 charNamePacked).splitOn "\n"

/-- Whether a character is an uppercase hexadecimal digit. -/
def isUpperHexChar (c : Char) : Bool := ('0' ≤ c && c ≤ '9') || ('A' ≤ c && c ≤ 'F')

/-- The value of uppercase hexadecimal digits. -/
def upperHexValue (cs : List Char) : Nat :=
  cs.foldl (fun acc c => acc * 16 + (if c ≤ '9' then c.toNat - 48 else c.toNat - 55)) 0

/-- Searches a chunk's entries for a name, given the previous entry's name and code point. -/
def findInChunk (target : List Char) : Nat → List Char → Nat → List Char → Option Nat
  | 0, _, _, _ => none
  | fuel + 1, previous, previousCode, cs =>
    if cs.isEmpty then none
    else
      let (code, cs) :=
        if cs.head? == some '#' then
          let ds := (cs.drop 1).takeWhile isUpperHexChar
          (upperHexValue ds, (cs.drop 1).drop ds.length)
        else (previousCode + 1, cs)
      let ks := cs.takeWhile Char.isLower
      let shared := ks.foldl (fun acc c => acc * 26 + (c.toNat - 97)) 0
      let cs := cs.drop ks.length
      let suffix := cs.takeWhile fun c => c != '#' && !c.isLower
      let name := previous.take shared ++ suffix
      if name == target then some code
      else findInChunk target fuel name code (cs.drop suffix.length)

/-- The code point of a name in the front-coded table, the name given in capitals. -/
def tableCodeOfName? (target : List Char) : Option Nat :=
  charNameChunks.findSome? fun chunk =>
    findInChunk target (chunk.length + 1) [] 0 chunk.toList

/-- The initial consonants, vowels and final consonants of Hangul syllable names. -/
def hangulLeads : List String :=
  ["G", "GG", "N", "D", "DD", "R", "M", "B", "BB", "S", "SS", "", "J", "JJ", "C", "K", "T", "P", "H"]

def hangulVowels : List String :=
  ["A", "AE", "YA", "YAE", "EO", "E", "YEO", "YE", "O", "WA", "WAE", "OE", "YO", "U", "WEO", "WE",
   "WI", "YU", "EU", "YI", "I"]

/-- The final consonants of Hangul syllable names. -/
def hangulTails : List String :=
  ["", "G", "GG", "GS", "N", "NJ", "NH", "D", "L", "LG", "LM", "LB", "LS", "LT", "LP", "LH", "M",
   "B", "BS", "S", "SS", "NG", "J", "C", "K", "T", "P", "H"]

/-- The longest of some parts that begins a name, the first of equal length: its index and
what follows it. -/
def longestPart (parts : List String) (cs : List Char) : Option (Nat × List Char) :=
  let best := (parts.zipIdx).foldl (fun (best : Option (Nat × Nat)) (p, i) =>
    let n := p.length
    if cs.take n == p.toList && best.all (·.2 < n) then some (i, n) else best) none
  best.map fun (i, n) => (i, cs.drop n)

/-- The code point of a Hangul syllable from the part of its name after the prefix. -/
def hangulCode? (cs : List Char) : Option Nat := do
  let (l, cs) ← longestPart hangulLeads cs
  let (v, cs) ← longestPart hangulVowels cs
  let (t, cs) ← longestPart hangulTails cs
  if cs.isEmpty then some (0xAC00 + (l * 21 + v) * 28 + t) else none

def isUnifiedIdeograph (n : Nat) : Bool :=
  (0x3400 ≤ n && n ≤ 0x4DBF) || (0x4E00 ≤ n && n ≤ 0x9FFF) || (0x20000 ≤ n && n ≤ 0x2A6DF) ||
    (0x2A700 ≤ n && n ≤ 0x2B738) || (0x2B740 ≤ n && n ≤ 0x2B81D) ||
    (0x2B820 ≤ n && n ≤ 0x2CEA1) || (0x2CEB0 ≤ n && n ≤ 0x2EBE0) ||
    (0x30000 ≤ n && n ≤ 0x3134A)

/-- The families of characters named by a prefix and their code point, with their ranges. -/
def numberedFamilies : List (String × List (Nat × Nat)) :=
  [("CJK COMPATIBILITY IDEOGRAPH-", [(0xF900, 0xFA6D), (0xFA70, 0xFAD9), (0x2F800, 0x2FA1D)]),
   ("KHITAN SMALL SCRIPT CHARACTER-", [(0x18B00, 0x18CD5)]),
   ("NUSHU CHARACTER-", [(0x1B170, 0x1B2FB)])]

/-- Uppercase hexadecimal digits of a number, at least four. -/
def hexName (n : Nat) : List Char :=
  let ds := Nat.toDigits 16 n |>.map Char.toUpper
  List.replicate (4 - ds.length) '0' ++ ds

/-- The code point of a name of a numbered family, given in capitals. -/
def familyCode? (cs : List Char) : Option Nat :=
  numberedFamilies.findSome? fun (pre, ranges) =>
    if cs.take pre.length == pre.toList then
      let ds := cs.drop pre.length
      if ds.length ≥ 4 && ds.length ≤ 5 && ds.all isUpperHexChar then
        let n := upperHexValue ds
        if hexName n == ds && ranges.any (fun (lo, hi) => lo ≤ n && n ≤ hi) then some n else none
      else none
    else none

/-- Families named by a prefix and a number of at least `width` digits: runs of first number,
length, first code point. -/
def decimalFamilies : List (String × Nat × List (Nat × Nat × Nat)) :=
  [("VARIATION SELECTOR-", 1, [(1, 16, 0xFE00), (17, 240, 0xE0100)]),
   ("TANGUT COMPONENT-", 3, [(1, 768, 0x18800)])]

/-- Decimal digits of a number, at least `width`. -/
def decimalName (width n : Nat) : List Char :=
  let ds := Nat.toDigits 10 n
  List.replicate (width - ds.length) '0' ++ ds

/-- The code point of a name of a decimal family, given in capitals. -/
def decimalFamilyCode? (cs : List Char) : Option Nat :=
  decimalFamilies.findSome? fun (pre, width, runs) =>
    if cs.take pre.length == pre.toList then
      let ds := cs.drop pre.length
      let n := ds.foldl (fun acc c => acc * 10 + (c.toNat - 48)) 0
      if ds.all Char.isDigit && decimalName width n == ds then
        runs.findSome? fun (first, count, code) =>
          if first ≤ n && n < first + count then some (code + n - first) else none
      else none
    else none

/-- The code point a character name stands for. -/
def codeOfName? (name : String) : Option Nat :=
  let cs := name.toList
  let hangul := "HANGUL SYLLABLE ".toList
  let unified := "CJK UNIFIED IDEOGRAPH-".toList
  if cs.length > 256 then none
  else if cs.take hangul.length == hangul then hangulCode? (cs.drop hangul.length)
  else if cs.take unified.length == unified then
    let ds := cs.drop unified.length
    if (ds.length == 4 || ds.length == 5) && ds.all isUpperHexChar then
      let n := upperHexValue ds
      if isUnifiedIdeograph n then some n else none
    else none
  else
    let upper := cs.map Char.toUpper
    match familyCode? upper, decimalFamilyCode? upper with
    | some n, _ | none, some n => some n
    | none, none => tableCodeOfName? upper

end PackageRegistry.Text
