import PackageRegistry.Text.CodeRange
import PackageRegistry.Text.Packed
/-!
# Named character references

The names of the HTML character references with the characters each stands for. The table is
written as text: entries separated by commas, each a name, a colon and the code points of its
characters in hexadecimal, separated by spaces.
-/

namespace PackageRegistry.Markdown

open PackageRegistry.Text

/-- The named character references as text, packed. -/
def entityText : String := unpack 26665 [
  "h:jURA,pn$l*WxbvJzu'4mI.OQw,GYDJv0f1;JX :cGD|,p'g8Ux-Whm?Ikg!f$YAJ&.)Y52+'w!0GVpz|-^osa2vsn1z:&q|m'klPQ<2k/X(%=HVJCNiJ`O`O-G<'QZixM2^)Qz+LMwvfg:Vs,F?pJJ?N:0G?#D'1X1'?*967ejj_6'n+m%mTic:4B^M_[')v[Y`5AO<gjiWKi~8rq.WZ.NztqE>x==`rcR4E'jaNL#f@?0-<`g'zS(C'A+<8HSD 2J%SpR.|?tKs`#-e8.JFwv+&G[!^c/j$ky,05Mb;vu,Hs]5PzX#p5Pwr(O/6-u4)6Om7 6?Y2iA86R2Wp#.VM7sD'yn:TEpg'1R v]@=VHjUR3JdES<D[5W:&J$$>Fv5bGYlrCQpPmLT:!'0D)F 0eGg7qCm):,vFo_1#&kVJ&cn-2Vp3cvCt2M>!jp6dpR3'#q:N]QCc(0.$m5,2(^cZyLJiQd9,U3mhsjh5fx-EM#DC%j0>4Vy0pi8T17DP,&rz+'klD`j1gv>D7vNSbx'eebd=x,L+ecmNT1P?BQw;ma5?-A/Xc[KMhM*K91IW@zcBU$c@5;_)e6+d,r*,JGw_G.PdO&R$uYyW:Gq1-ul:YfYrC)5:vrDKS!blAj7+cd[f2c.%x#HxFOre8n.;-lMX:^M'i3f+S G:Y<M/+D:i-<)TBg$2IuT!TM4Gix[[DI1lAI ]kX~WZk :*H&:0v@z<Q724ulm7MCRHc!S?w;I(PgIWRF^[%%Pxq>zp<7NX h9hc i<rRU0S;'GUuSG]oc(aFkr/8`P+F6_=I=vl%#3'`[^-Q%-lYQ'(A;?;:'|_?,)l@KCjjVe&l@'@I3.Ef;V/Rf56hKB^PLGX~h6s ()hatmXbU2k8$LS``5+nMXisN4=-C(9q&~mYty&BXYu3OSt1MQ-`CFT5'r9xMEl-9.3?/<v0!pmb,?w[b;,U6Lv#DDG0|it4;NiZb?*+=g>P$P[l2,hAnXY?4a!b`B' FB+!0Ivp1vw~Eqr0VyHx=Kn:$<b#DFia9qV_m5+0U.<|%?:Wn6sZ+e=UA,p(;_ VuN[;)?k^ddqe;jXUxXdD0F9^g*PWrqaXWp>QGBK<pAa+L'?c(>OX`y36S.ZO+NTr9d#Kf(%KoEICVKIoWs5R3,o4TR8$9T:p+[E|qtelt_*D: UL|Z_p4*6!Idz9LJF<l]Op,FP1dsZxt`mh%=:_3)8;UUq[o*6@|~qf'cj9A+'$fjR[^D'6IPwZH/L8=Lc8gc1V2f5fr9YhgW2LDjHJZ0jZ(xRsAo]K :+KgmJm0`k`$fLj: 57)Y=ZcXU;dI*eDd$<Z5>+`9)!%lP?x>dNwyHL[1_nAE]L1(ca&g8iY&pBs(ol2&`JaSuia:vuH a0Q Q%G&8B: cdXkY#?Zk.[./omSK+iL9Gex0<KykKBt>Y84]i!kN5hkYK4E3>^(Cd<7E6;%M;1MH>:>%^A1''qKbYdX]+.3>6VwxFc*chC,x dTU-qwlF)I;j]<7| tG=G8(2EPju9/[BzZF7h&RO0Du(Ti]eAe.cat#W$eM-LsOr02h~Xjk*hOzztDgd 8xWQ&F zPQXM'#_x-3=ZeVl!^^,OPWH)6m(^LHQl/dAeQ6[:wUbfv66!Sy@:3[ZkLb+?Z>8uAb=: .G6=#Q,bd!!TDMb|Xq+]:C.6'vx5]B.:;)%ErKT')CX>I9mOC )pW4p%MR%qf%3;ZC=|n!w@1SZ3>O8Nh,7_XjqWt1@=!waLGqafzMXn|~$;z|Dte2ctlu8xr6ze(;s0uxTacqei#9@?9|P!^PR5ixEEZ~V./qj!ycmB(6o^UQt;^AT[2Miemu?o[!?Y.@GIZF5NLQ$&))yq;baQ-e$^OEp|16[dJK9E&@La0/QN* e93w7Va$nAf/!1;q4gI1n8@-,@L124$3Cf(SQ._JzBUssTEW6at4Y3cazmlAcIe6%Xd |DtTSpB9;xX<D[fBwU!pE<,+4z1x(dEPuKAfA_RVDGU7[kwen[a-@DP)uw>YZj&Gjmu.$TNAOB`k5VF4h?oMCiC.r`&>)`62VgX;QN:x`Jjkq(XY:c>%pwB$ji.dZDF4-zf'^iU;9SF5a%BwD[Fy^K;^X.9V/`DFfixc+Q#Tg*2-0Aq)gN[C|<: lv^=w<OjQrae3qrz4K-rK)(z3(@Q!)D3Im$<Qov)j8jNT#2LCfjyUk*#Y02!#NekHS ,$R#6>W$-Q9MH(z.qBM:aAWE'k8j^WioOo6Vl'6ArGS:~ff,+GE8ytPuXn*_dY4t^^%M!V&ETnA1;_g9NX4lYv?($/&4F8|DrHQ#vV6^81|w.+WXh3s7'mPir;A;s?S=j|H]A]O)Ie1MSX#g+4Ty`FG$zUY `kR=ZEpWo`;]OkbtpwQP#UADK8+8xlXNZe!sS3.`d>&Oy8A%A;ISDJ9IQkWZmi%[iX<$S?7,tZVsnSg>t't5u@v_kZHp[Td*$X)43!@D?-oQzLc3w;OIpA=ksN>bteqKx^]RmH#.yj5 ASNex=GXErkr9&HBP!(2oiQLn=ivmh(L]7D_za5V2nTi;fh!]svpDsNLFKk5]Z3Qm %>I'V'.%;[V]|kY#jhA-*&RX|Wc3;E $MuC>=D#iJt^N?wS1j_eCDAuliW?zYqY|ddaxN5V6oMH^-u q %znJDvcdMH*^HE0Ri,2YDfBZH4!mceY715TIK*P*9mV`ZqF`^T5pS#=&m ;5;]])E&M)!;KIrDjN[wn]Wn)mjvAj^*i<8N&~O]TM-+hf593$QJP.M(I!O+h@i'ti=@?PQt[#`IL~TZEwVhrZ$n!AMi6b%l))>%W'[sOFL&SM(:Ya*R =Zn%@ezr!>l+!D8gPb9m]XH,p;|j[H8*grh]02A<WN|_NpyjkBVJRmet1GD$B>fRV:s<H=,c~+9>^2A/,EK]XKEX2g5vCrvF8awA<pvx)Uk6VvN>Cs[5,#Znpm7D0EUE2^kg<7=/#U/P%uJSoZ<IM6)X&lXUij:#r'pk?*98=S0 kekwx",
  "IlN.7,Ht$jx?ot? 9RRk[UgnSnSJx?VF$zoc+Ft_&s19&~fD^]sfk<+5Go%]OX>UdB19,pg/hr^*Az%?dN;w`A6/hP:Yce#RKx04aVnz;+*FQgZ+=kKY' 56Sz!hB^yc?<>-f;|ZX>&f+gyYa[e7] qmL&b|W(XPwca)WG1x7B/_bW_z5#,Ll/kDgf?qZ=5SbXAffEOm7Kzpb ?0RY,8kUhZ:GVd`A`Sc?XGv9m^Oet6BVS?$iLv/lNM5w,B@YQHY(-xA-x[>>90=oLXs-@wX:>qJgq=*vD9'/SjO~Q0U3mHOOxh1W5sIBX;%TzHQHEe#cke/aZYzek>>KJ(t_L'Uk@<+?-L`F+9X5[AXg1mu5E'L/O`,';*Yl5lt!L&|.v^Dr%ESXITw0dC*6 .(m jd_>6C^EF1ABCV,(b'b/yR>|scEWHk=5i5qE0VNSYF/r,JgtI%w6pAEIuevnWOnL'sZ'^'8I+:`|`](ec3JF7t~iEJE9j-+j5/Bw=^e6eoLdP^Jd<A=['oS>J@D#h5VZXE2gmAry(H$i5! v:cy s2]r%#?I04Qfath f^X5Y+!<^_yhy[@MYJ'H)q6hq6-DTLaN'l1Qk.iSlTjLY1#E?FRJf=PAlTcHf dlm59Pr3c*vfR.dxkx,1qu~/`<TKA[>])I<dS%6o0bnvr,`?C/^ZI/G/hKQ3>c/+<h9(rmr0/4TAGV=$2LrUrvl&KyN3R*Yaq1.vuf!+5iP@#!Kkd-yY-I[%GUd1|kw*R+6u1rl;We99*GjcEC4&rguu0Hr!H])eRO*v9d/LR+qz;TiNcdUR+nvG_Q4[V|PAMG5p$y4NxDBQDowv*9!g;%7k;rF]9#!QunQ$c^$`F#AFjjTS69:,V]`m$5).L'$!C|jOvf_qaKX0sl3#N@V<-'0]svn[O8V*I:[*>Y;=h<T@`pf(:DXe`ud:88,u)mR3wj^@-1x&!s)xhQtsN>6^C/;_f?Vj`Frv-[Un.N%0f1k]mR=LbI04/0VO.MX)[eD#bob#)AW$EAY-!ymv.:Cc4*T@h 'id0d-[VyM1;Y0J?oZ;]tC 0Q-@C<qse :U,9,4'-Nx&77KY`VG]OqWn@`HK($AuT$rl4?? v>Q$Bt7,+qjV(z0QxG0Hx_tR;+P-Ey(HCAq(vz)(,;mzR]Z_zE8i2:;_<JULS5o kKiQX@fz~j'y<_PEUkjgP7ye9ueW(W'I-M%7fZJ1:Dw1F bb;<_`WS9U/F_g0)#aa(+sULle +jx->)wh1j^GYBA$1awg[<9~w9^pClT,GUDi<f8z96|Q]xwFXsQ!T7C|^ytMvt`43n1=raBIm`Vnb/|ou0)aaak+io+W>kR7q?>bSRIWm-a@jQL=H4PziScJB_G3If(|A@],R:(-NcGz%Wtaw.;Dx=w'ZCv-zqVwfWHEz4McXRL:^rqzwsz,i#L[L/I43+Q.`Y%8[6bY,@oF5/fLZCnYF.dRc,7mDn1u$TLR<bAoL[ZiHMfo#D_*!gcoPQB,NI7%V~H#REv!jEsi!U:a7!X(HSu:7f-!7`0P$bL?+&,J8'J(''JhaT4BACOX&Od!b _GP)8isJ)J=~#hq:6pddkyF,>zzW_:CAw(/Cs*Y6gzx[qhbc,HT%@'.('lleK?QF?bnZhIOb=+6M[R2)^g?KH2ocn0(-CdZ`HM)/*n.!G1u;2.J/kWWm`HewGbPM9qaGZB,mQ]@C(C N]R1>B:u@O8GpFz`6Jx~ TW$-nq*aVF<c/!DVH_,Ces<|QA)a*+L?@^b%l8T!T;!wV;[oZv9/gUWn$H<;,lJ>)y&FrN9]]Hel*ff(Y|BBRDFA.V`:H9FAx0m[!G&E5WfEHJQ3yCTI>&wN?o_Pw'u*I+z-%rBLBHcXBHJCkR@fh;%TZTS!fL!#u%EMm3JIjL.LrsG7NtH/Ria;f/#N7[rtJbYa:KMr_:>6t'*oe<bwr#V  `W_6;a+vdn?h!e&(XZ,HEK2mn3^?7feqK,oooPyhlM.Ga@p%6[V-Lb4a x?I6(rZ1h$-f4m* 'HWWS%,.=+WjrUgC|6NczFxaqLiYnf;'-MRYRJ<#XrIz;)&ddoi.Xh#^C1$!)i84+oSF'i1b]sEA<J@U@Hnf&!`qQH[<<CzUf]GL4O(0HQy;)u;8sAxf]D)-(bYp;4('DlVc6rv)Q%Go; riZ+XT0|zaJ E8$`HG_(lfcUooT:N@@*U/MNx@X~:szHN%5O_y:ynyU2owEL@ob0J]+RZvCcHn3JqU5[L@g~+y5RY9ru<jd7,VLd/?N|z2D/4TGX]eENA#]xE 7rB7R~*2;2!X9Os*]F|mU@lsU]TJr8.H.7nMp*;O-ixwP0x^nA'f5)|txo]9Bjz]m%1B+BDGs|__JryUMC55|lzlMqZduF,wm)?m9np1P92G[5%p?9kD>j/bMwe2MD6dPD7G:)fVYaz&=~W2fru4^&%53ZZ1by*;p!tuAN7Et]PR0Lt-';X_eyK^^M&hNfL) H=B9Tt:21*b/uuW-n*VYG*1;[U_ZI2vnmzqo]1wp>9_D,c,;zRHAzJw'wv!oTNC GlE39msdo.No&lVAp@,EjBX*3/z %ex J,Gj)9hKxn[caW*Iy|kc/`6|_=RM;YRKv=bK!.AqysYBp=y(tt;,-1k^Z n-S,oJ+u>Tx#CdO)>(DkS$=*i#`<!4S3l_o7kc^ZD%;Y I`#<M+[V]9QGJaJu$%1>:O4>ey2mh[?HmgZ7f,.hX3)7rhy`Urn@/Bl|$~MzVauv7|C)K/[nZxQ(iC'!gM0r]_=Iys(2zcj-e!`FM`$r_;7*ldZ7%D*Pp?eDy-z|`K79Mrf($,!aUY98WxR4xRV%eH=J)6k=hvtKpABg|O:O+%%NfT%4dVfc>Lgj9HW#GK'BU]YQAfnW8Q0lvP_M,oC&j4)296sr%FlSR]P>WMn>`qyA9`B=x%7~4GKrECaUPQH6/^7XtqfnDZ4yd,B&>@Uk7ibXl5w;Df&W?L4XHf7c=5e-jc3pv2tt1|-u(z@yi/W`('RY+q`z",
  "dAfVYP6!gT+!@`ED@^!@NNA>$f_?NYr5,A=ulukQx`!TI4^lzW.+JMhHbKLcw*x>5%vb<y3oaf539YEG3i-2vY8J:VH],Ed/uhr2`t2OE``xaoEb*uqouq)e,5K_IpTW?Og&@C>!ASx~q]Pt:mP/Q_%U?ASW|YP3Tp+FoZ1fh]vMY>yyS .5'eI+9oTMr[PTh YuoQ4|_@ap+%3@^h?R2yz!#Y(MM6`QZ7*b|Baz4J|u/>/K/5iFYPTRripucj[]h06=u;jO9AT?pKeh@Q7RR?emx9E7xPx98_LM'mdEtPPv?^-m8fx&Va(ND%(_RaseuaO]&CIROn$>Kh12ywQWLFsYlMLro/2#=HGQZ(_exulrbxKBw4I%d3ztXV<:2WQD$Mb0mq$?i(f&mfw]C*z`KiAc[k7Z_m-sWyG(d3/[D8YM|)jYqpldh=(yIEOa8f@6v'Z-%`6dA7EuNx %ebmG2h!H_n>iynQ3r).#wK>F$eNH(FTaY,uSeALXOqfx+<u.?TP25.K,m|:JD 98B.6B8<%F:NM~_Fk?#]/R79QOW9sFUfV?UZ%!hb>>j.T,:XEM0He?sU|Ac-owjBY6VHG0VOnwjQ$&?)&/=Xs+?y/8o@r$g%'> ,C$F&71+IaEw??vJ4-1j$IU``OeO.x%$Uha@k/mtZ1<DwU2K'o<zMP^O|LWgW,[Fl&C0iWq#kZx5,9uwiRE#W66M8m)y=Y'3h6l!&6Z#;W[BrU(9|NlNd*QzF(A^Xn^`|,wrlBi,g8.#pA,X+Q~-*Zc<(!:9h#q0Dx<DPk&H&`f1OO+qh7q%w!]Egnwhd+<bn;o$rfLq|xfep[,g&b^*A:`PLb/>xwy#wO]36bh59ml.iZ><W9E>|NiG#12?bM7%] FjfOAT)I!X Z>JDgISgSzPD2>HP:/bv%]?m!@H9.EWnF&7:nvE|4,p*k]phK3C'w9h|5hVe!/M9,YJ`3%.R[1Z,/n_D4v_&!-6A?jm~%x('hU +wd30<,BCdDzxPFlGrAcHI~XPTT0Fh6X]Q!>cm)62%2uUTo'(/=L]_5/U)NH)Y:phi4vNtfU(6o5zW|Zii~)P ;x9P;)Hb:oT52MLZ|nuu&dVCS!19q oC#2gZ$s,!:lXtcryS'tjl',9se`;H]uqw'M4PDqBc1JISIMuS!.e^!.7wGy/NYC_p?LB0_>Q1XGBo=%X`FrT!`i9KP6Gex+J^SV]|u/VBsH1'1e^_:F,.R$M(]fe_s|;UgSua<DN5b4*c6%(!4]wpgqDlqNSUNWG@7V%kjZLRhCS/_f+/?^?'5uVa/vC*P, oK*ByskGio1|hfn]G4h[*mxoIYGM9oBNqFbb!zuEMlUdZo[[3N+f&)!#i^/1Wt0GSJK&ic-@mL_Z#OJy7gaMvNo~$*,WPtT;| 87drmnBT*ttP#T94:`M#!LM/x|&Vs2vc$? @O2oz#Pr:Hm)!mEifGn8c1bX@O;bK[6/NY*:~v!LwNqrS4fw'^;(66#jzR([*B][!dmwOo/?KI%YoUDag`RZVZf&KCpx5(Ch sE!-xfmKb|FtC[[Zx.k)5X,l.A##2^5C7>K$VDuqmaY0Ropi-v)dKtH'4[!UV]31K3rNUOq xZ(y95vOR<v[FpXK.:J>5XX1*.&1:21k#wBjPB.k:pw_fzVi]?*mK|aeuW^d$mqKQ6^+zOS]MP'nkgIgTmOGX8_+T<pPV_-RQ<o5XJOg^K77Lh:xK?rZ55D9il)1Ac5)'kOOG<J?i+?gH@I.]-&'[X8pcq7=>|Ov*T@)KLo^tl tf=JvVPluVev1F5(k%+3?:`2e$`nDmb!EK _Ra),mIcD@(O'd(!1&ci!F]4&T]>,el:B>sa6]]?qv82sFBvWK|(iKmmV9b:9XPR5rw4jZ` ++qajkR>:=)aI<fU|^9hn!;8B,O`qx3tq iI?*x.]>H8|lm^&KqD,UXm*<`3);F$Yd1Au4EJE54<=y5C=g<(j5pgs'0p;,<)uGNK=<d<>UqM/z0_zb7F@g51gw6nFg6@aMU~B5/JSttoOeQi#r=21Ra@(q,M`W%@v@Eqs/dM>BYw+h|Gye9bKmltoN_7utPN0SPk&>;`9]c)GPqXmH&)KF@DmJc4m0A!vb6Q;Y^?|$u0e-:9&P;yT!4)> $r-~;xVnj]AJP7Q=HLJ5cI]7.'a0vIfE[aM*s'N(8B8hpV[9m*2,%o?9p?(?B8tr#w2!:|Xu%KLw5)W,Qn.+sYfwj y&W[0?:V6D<@J4*1z1oJbh8~n%@5jGnxu/fYhM1NpR@,v+0&0J(m?3ER f|*g<+dgBh/vLsN)Pq_lxTf>|Z|)Q:BwJr,H.d_<-DEVc$[gES`U/Q8X,LfAUs3xA<Gg=G61z:fVZ|DuBbS>F6|:z-PmaEk|``g0NNkCHRd_G7&41c#`Pho_mfgd7To)yo(iaHL;38BiQ:&OjQR3|R+w2g_inp]C7$bB%gf[b/p#;(3LB@PdR- #d-3wnkIxyN&^GE8V~6*_j[ic/N,KbwqF^44r_$=9!V:x,x2+12TCvjw>tG(MVfknoCIfC,%S`d;M/fE%2JM]pvk7, HBddngA<4Gx!L g;ss%m~NDAa.Je,K0C30<bQ?j0?RT6/tk4k&?;x=E*Z_;cx%4jyN1e6KF8m,|jLDXm.cA>MKG(%ruR^>r75vwg5(yLNEJ:M3:9gG6@nrDiKFe,^@f_b7|/pG<;w7%DcP 4W5j?9S(5p1-X9,]y!4NyUPex82M*J4A,XyP#<@Q|6SJb~W#M.E&j=EN&hi;soA!X/J]=(5;ZKSv$fTSP1=,eX?<cX0`0Q>(2iCJbKx;'d[Mz1+`8LkQcDQ[*.w-&;7?N>f0 *Vb9u%RcSV(9>MJ'447z:NoSaOCm!7[%.MQGW3[TscJYR@1uj!)tjh90upn s*qVt#B*v.*6`zQAHz[&IfvSgb4LvVOgN.x/-_34b^xw'.k+Z_6W_.cK,$.+Dtn[9XHzx tGJ42B`T >Hcyn<R9<tT1dG=5_(_Sx3RQ*=d^M4 8",
  "&6B3yHtT9V@5j~yf-Th6X5wW5/pEFIuya9 h(w#<@2;HA9Rmf/xVPss0@cR8<_Q58FhW'8PR5=BA]5h4Wi#'FR sD$NKCg+xv)q5? Fj&b=Mx9/0Tze)2!$ABIzy| iPG^qHcY:=/&MBC2.HkK7R!dw=xuv!Eb0jaHC71my:qB|7T5JU7fUWtDxT=:Fs(('pc*7oxPaac -=ZbtQzHm9=Re|ry)h&E$du*w[+D%n:U@@mXwY2ALYJ?C<XbI++mhF@A#HQPI@4fQ&gmb.Pz(&P|<q(N6]HeV'rmAf y5+U@+B0YW63!=-Ps,~Rfb^erEv0|$]/B7,L5WqAf.#SlW_Y-K~(co@8y8JuqmsHslIVIUY&+^nW(w@cteq1/&.c8iIFUWx_@GrVr,A%M*[y9 t44rlrO3|C,C+E^!;:>!.? epmin`<R0&#I61$z:cE]M_LVW<nV:]>P6TyuJ;!(]pDRAkALvh=miY?%LTnp[[QufBnD`O5gCad#z!fU+LG*q~6 .7Fj'c`sxSGQ.+%~J |9).>7/f5b1vc2cqlXEPegg)0J5O!<//Jy A/c5~fj>t NSw]+FY-w9^pvyDH8_?<7p*ZRVlNkQkjFCXOf2T*jq& K<9Nx8sJ(n6xQmKzrBBf_M8X`e'npksP=0: ]x8Q0x_'6eO~!N!"]

/-- Reads one entry of the table: a name and its characters. -/
def entityOfText? (s : String) : Option (String × String) :=
  match s.splitOn ":" with
  | [name, codes] => do
    let cs ← (codes.splitOn " ").mapM readHex?
    pure (name, String.ofList (cs.map Char.ofNat))
  | _ => none

/-- The named character references, sorted by name. -/
def entityTable : Array (String × String) :=
  ((entityText.splitOn ",").filterMap entityOfText?).toArray

/-- The characters a name stands for, by binary search between the indices `lo` and `hi`. -/
def entitySearch (name : String) (lo hi : Nat) : Option String :=
  if _h : lo < hi then
    let mid := (lo + hi) / 2
    match entityTable[mid]? with
    | some (key, value) =>
      if name < key then entitySearch name lo mid
      else if key < name then entitySearch name (mid + 1) hi
      else some value
    | none => none
  else none
termination_by hi - lo
decreasing_by all_goals omega

/-- The characters a named reference stands for. -/
def namedEntity? (name : String) : Option String :=
  entitySearch name 0 entityTable.size

end PackageRegistry.Markdown
