import PackageRegistry.Text.Blank
import PackageRegistry.Text.CaseMap
import PackageRegistry.Text.Packed
/-!
# Emoji codes

Console text may name emoji as `:name:` codes, replaced from the left; the closing colon cannot
open the next code. Names are looked up lowercased; `-emoji` or `-text` adds a variation
selector. An unknown code stays as written.
-/

namespace PackageRegistry.Console

open PackageRegistry.Text

/-- The emoji table, packed (see `unpack`). -/
def emojiTablePacked : List String := [
  "ol=>=,w]S?&BdB,cayn&#s+Z1x/:v;EXxvDL8jgVSV$+bm%5Ec|7*W|/8$Hz bf|tj,6`M6cA5]jJv/:>m,g&|Icv'8^Nvc;VR'ua5vxDwd3`I5]SA]a5E<'F!0Xpr:?OSccY=Mf22Q>%EV@@up!QiGSNRqAdkM6qMa'mr39>APrUR/*-o$gkk69P)Tg6k)MVla(_6p+6uhs#=-vD|t+'WB4(+g)&7@!FrTx1?)XUsWSTqHN,a8:cM1ylN+Oe<9 oA4#x~7dio#:B5g<[G9+zd'zFV*9Cu,`&zMQ?;J- Oja(0tmWo+oZbN'xBfD%$Ib;1<NV-z+9[0BdaGNL'tq(w(hb@ICBi?pzL;|Pw 2^*^IZ0Qv[<dsZXYy^^.*ot>-9(RQIqI%gsz&#/W@5Gbc%]H^:-*V6gP/3#m6@ErU*=J'[xY3t%.x8:a r+pDZ>B>N1)n^9!TaQ2?m]DMnHm4!$#U7,O.9K_S<r<z|'z[+Ri=buT>p~bW3?c8eI?#B|X6[-*cUj1XoQCeLaZKx8icClh4<hW8*,M2TvpMTXiR(xa61qw3`Ea@VHz;(|3PekQsE#dws4Gb%$</BACf]$iN3bXxx:k@?iEXa~%*-MX7ycA_fh0n-s0fbJAwr6eNQf24+r@JpQN_Sv=KS$h:3%'L)Ch~L66.R+;8)s6_wv<u+Z^1vQKy4b!<TD[+>xb4 ^p@0UcJ&3ZC?s>?d#D4o~4P-RlrF%Q)c8LT+EY]b^ tYgQKrFjGGqzyHHc-z$#n$9L5bGMVu+U'aR*&,]l/agNXsQL!;;(s=DXT`N)*O6#~iOk)(/*|1cIL3 !!B?yh]Agi!Z@ifCJ~^l^L0&S $/^IL8!i;io^tCPdwJ*]Og-!M4Y7^u<IN3j`iPi>S6qgEX3mYi/mU3mWH a,t0+~$??~.f:xQZtN(%U6D)7jOen|j!s_%)=3Yo`OJI&m|dh3NN:<DYM=)|4Qbta9q4F(6/=ZI P<WzGvM7;jmF?l[5@ 1EPL?48F01RYFA9&eGj+/$5^(iE*!^Wl1r6c M`iY/v/QPGN=8!GadasyP<?iz#-[YXTE0Ub>x4G$uKsP[eGjvT)7kV>HMQa+b[[FlKV99Y,%:S42uwDu>k6?rKe;$<:FEd&D2'Yy*wx;&)`/g2]:)1,wxhFx>J3fDag6onT$mY1qx(,,)0RS2m,%wS_R ;'rU^-f2;[IILuAj6Nu6?H.QGP4nqt_W MnRPC6?-17vN:wz5t)hAGI2ncyR>m`CCOK[0Ba%3!=coflrB7Hz=DMeWIMQ.Fd4L=yPlViHJTmFajT@M5kgV6(oOe44$/Gc.^G.z_f[rYL^'0UrxS5T9s+nnF*kWki)w:Xgaes:KV|Rf<x]Xq,E>FwP0=tKje0*lhh5n]YOI_7j&(nv<;W<*e;FeZBCZ,d[1,IABww=iKJr(lA]QHEHIx/n!A(Ce[Q Vt7ScOL!u =`@D[(%U*fuYk(S_woKHE8Gcb<c%CP,]0x/ax5U_.8[fQnJEC8w@JlZ8MC>q8&]KY,d/qA.nwZVp.i1?DLo5o*<i,|vobDjcBU8.vsStb,AB@IiZj2sD4R>UyRV/!~Os4Q#$QB/zfb`vE=>~pfCwld:Riz=S2R+5Eoae/g'LVO|b5qky1u.:[/0xD/V9. I=!#eY(6HMY|sJSlsMjUVpk^nyRp>Ys*'I?yem^<Zi/=c[,&Efg]Gp/S`L'9YwH%H:j`Rb_S(`]3pN[>ai;|B]ag0B k]1NoY~lK`&L88Ym:l5Wlp/jxzA:)y+$N3I5]Gc7()p]9@(-tzam>cH>bI^px,o=cbKo+QpI9Fw*ZO^&YZ)33mU=PSV9d6jB<S-x>'O?c'A#Dl%y,.4Y~]h,E@ (,v^=4lu45d 8ob8n;5>e[WMH>!O=~(TR;Ym.3DWwyL7 rXe#2cG3(Rk%k?AJZ9_7 GKv(0CkkQ;2uila6G#yS]9hsZCe5Kz[n= .i*cn@VD=8fx&&n]w|(IlAvwhJP-:F`?=ho#(U$e2.?Iov*VO--`<%[')yEl@6lM+LE<5IO$N|jp=J,OTCuFN~n c[L&F:laYy-mddih:Koj]7FZ3$WUmKB+6!<9yHZmWJ?6FklI/spxc'_Wknutit#RSG;&|PFiqf^K!UziaX*1moAZ];&_%gc%<T/cRf.m>4=CkzZ|tdf&V3$+2HS1$oPp<S)c._Lz*bja^nZJpQ it~_'%eXo!|_n=w+0p_jRK|Le4UB|9uDx]$kCe0Wr;;+|qAlJj,M!)Ujvbum??c[z 3mBb5GI>6RFZTp3& ?'>r!30dGQQ~@;I+[C8U?iTFdTNbUZE-@eM].*6W1i4aM*WU!lk#='.~(r`nBvKeP*Aq9Ni.jl%v'0XYHVKs)^%A4Cq6IOK#RPpsTX<8e>>dcz-^>$kUJh7EBiVafc`CAUAb2dwvI,9Me9wIG!]CzONE<Lhs'>%'|.l`FY.p>ulb-Kdjd[K8Q^=xI8p[htP0k2E;TcIp[^+jSI1^Qf'k#b>=6Ia0G5K z5QyzQ78I2:4zeq&.yFC2?EXY(JtT*x:[DdsZ,]b&mE[3;dtu Bt3]k 1e:Cm)oH>]CfCILX/XR9&S5T_Fy7R[Fd<ILNaN5a^BM-`Wj28PjI+*Ad*^Q=74T+B<_lzCxj$H:iFnI(-%qzbKf&|0oFPKQOxLybm*Prl'o)DV Dm1^jo$:q6C4NZXv*^``RX?;'ojn&^tdAlY.D&91f st)HB<) 4_dpqfUa'r2++VQ;%I_4TjwS3c3#D;WZ;|*FFU$`dfD:uKFX'6S[g4&5KQD!7*=sAAWT&a]ZZa/Z9[j8ob@@j@Rn2E=]WNdp#aacimBPpRD5(U*P@t;B,!CoB&t8q8sL>*~]7A-x3'3zNib& *!ZOM%U7<_E4=c%6npbn9v$G9&##mE8=a /U@O1wWSwvJLNW]dJrC^w!CevQ E!UR/?K>pI jJp-?g$V0[fn9%19Zv_B?$L !2gl5QEcYMMS_C9z^z&WhmeWUk]bx&,$c&s%jX@O",
  "NNo]1CP!|[b~>%ej:J8RWu,_NA*,&h%[dBUkBEE6O'T;@;ZZeY+Z7[YHU3$qds5$s2Cq@2Te+$Cgs3rbW$ %MU7NgPwTc((M=C+ 4gTvx!9kCFsPIKvq,LW<Qo8KA/QdHC;@ [F-/xROjSWn%rAp muT*/o?tnzw;Y1qsx?rekK2_y_N*AOAjH8s^_VYnTeloEHX_MfH6b5D):C2)'i[*;ddzv2th#I/Z#&(Y#t<2REr_M!.cH&aE5^Pcp@g+aC ddQ7.YW:#@&gN4VN5*-2NJ3w#>N1,Y0:CllPW8N<+Jjj|QEASSg>Gm9/B5,D6&0=-I?7GT`/.,a0?U)GYQh?mGZ(BF[fHcea.bCOrmv&O)*@_ fQZ_JU>o2B1+dL :,v:9DWn*jNr+Os4v1Qt/W)'y'eGu_7Qn?sNnRPW`ZB;[?za[q2RY?puzpx+Of]aoWVhFW|cL4XV*f+E8%,hjH]9:voGPX^?)`<%iIZ`U..=,x=Hsht>Tm#yIMF/>tpG($K10KzT5n_aC>p2R+IcLw*?g'7zl#,*SfcHF+=RKq[Oy;GOxs(jL7]y:w=>e>Q0Kd[@m(tKgQ9^Y=qpf7tytNv@~[P>AlcN178@FRRX2P&^:[STtO-pdoRy1RbGX)`))`zY'._F5:YQ%5g]M6cI3 .m9ZA>BQ[uPI|p#O+`]+J3l46,~$ $M-EwHmy/QmJCb--xsBmXP?N<FIJIyfU4e@~j1U$|DoV8r$.S'ToQXV()N@$A`PgsivthY9zD@0PP9z@A`LN&8|O+v[eQH<wWiYJr`+!_uj]s)+Xv&'S&zj%]BY2MHM1QbUekivj<yz7unS9_^UF:,r_xsk>qYF!#6vZpTl^2F*d-eLYV4;kjz393VO1e`ei4@XG4t#`r:oUt&E!>DS)/(,B6Yt@I3d(,:io[H=j1|o)RUTr).%sq=9b^MU23rDV)4yrCvh)3$PuVRkFMg%y2@,aGwSn5u#C!Me/yZaLz,5(+([**W03v$nCCLKQ#iG`CNYn:O%J+ti@(<0y#~iUs`2/=h)48E(M1ra.JpMxc]K$4IR'nS)#jSQ_/Vvyhs*E?Mt7]5t|DoD]1tN_(7$,qO]aU;E`6PTZ=JZdeulQRoo4=eT|Dkh^VPI6h]s-4gk67lu,kVWCvc]t'<G>H$t<Kk5:$w(7i:|jfY@7<%!=7087T'rYIMPf(UM,?,+;e!o/-C6o94S5GBFgf$'4.oO,$?xFKHW5#>:Hs?OEg(.dq</|9p%^I<EUv7I@yY/#r1d2I$RiuZDfG8A$#QFO*%eS6Tie[[9aV[rkFHKC+>5xbdLGQrB0bPjKa yRggCGwX+n#'hSoC38-j^_SyDR[ITpTfE-(hj_:bV+*>+?Him-+dBqw??I^^.it9b]K!(1.?'YyB&*oqP1Bvj6T|R!1C-#ZXco;uf5P7xMw;Qu:w3R+mlwZY*Gnq$RjmbrHeAh*hX?0@T;IQN)&Ie~MK6<D )z$iZlAd[#fr@x,|.l3#&CEkK`pfc!bLe[IlxQTTqMQ~k~b0ckEzL0PxE/tWZKQN^[[E2BI!l)k,!-L A7?lv`UB-`7lUWO44|w7/?^?HD*=4DJPde<+!1eE[hoa(:-|'nZTMBuOAx|u?y]lSQ'~M9HJ;gi**pfCIMLYhG'+lo,zd$UJmM#;uFp<3hl^dDEq]G'#[1oT-!<2lF^#9ZiNLjpnY/)l<(v1Z'dm[Mg/h.Ct1R,5iO&^CG0qs1t+R;hv,p$?$N),]*Nj)c;ABX_J'#3A-/ak'>%&4$,TiNwbC#PW$&^</94J?6n>q*CFXG^eOf2;8c,:<7n2N!>7II_kKcS,BT6_U4Q!!~TQzHGL3ng5F:2PI&tpH'y-dB|5$zGgX*;BJmfNny3_#e$JjCN*_PUW&o!9F%pIMAg!T8@w;;,6IJ0FK9T8dRavA57IeHTjGzEd%pFWBTVrnt6]Nu@d!^<12f 2_cxFf!VoOT%%zD^kAdSE@sgvLbMct`4zP^qxz1zwwDhF#%t5-R]~,.[J|z-v;P=buWRitfdrdN0_y$`ay]t%#>JLVZd#Dy#js_$2iHf!-?M?vDzFs_MCro_o7+A&e6;fk03=A[@<zHe+8Jc,PUUyL+2MTtcb82u7ZEhU@.m8hcEk*M:A%F@C5-rk*YK_BCk~`LY++p^!s&56zH_bX>2E>Q,A?agXPPY]5,liNgxDrSJ(yku8t1r*QWkAjA_;||Lyx/Qz>_Pzz7m%*89.YO_*BrvnL(tG+EOnGrjrnhjl`F$/|(*/3o,U/on=K Zsd*#3JpgfU;j?evJ0,!;%4Y?NwLfn/3uLW0*cAc%OAesq!]U_OwSvDlgaK2>d@RFk#XE0Co6S]ugjM2@BYvx3!r*=C$LXKit$qZx4V_0~k&?U>1`2KGWHF[W#|(+yOzk%a9]!n*FGWY4Gd*]$t8v,|2s43UC<qNRt`,4LDih?=.D_EMc,!^c(zP@&m|3^qZXBFM=@!uBtYHYkd<AIA8O`h:XXbh3Uk!8wlsAY>NHsbUZ-_a0h,&S-:[x2X@gD`*5gnGI]]iI6Tbz)hg`o=gt&z5#YT!6KGs]0$Y'M/wn6x.|lXTe@A^%yqxv(RL?w:a6Y%@3+Q|E1ooAoV6|dZF,ZEu?SD9mH2r9NZ$lQMw4,h-wo)jt:x6`oK!zH.dv?5kDU'*%grd&w!7G*X/Nvi.(MXUM!+K'rwrEx%#6|A>d+fV%_NeUE_d(-LPNjvJo_'laMR3MmiPRc1rpPPwT2Oo_~I4,Qp2_Jw4C>ogyE;QV>tGqP&(rg)W1K:Ph?nz`N(J/'dsPI|Y'=wz_``ga!)w<*&VVICd],JNiy-NoW[D83L^6.[>;r7iwx=%.EHqZ%[y3/.IibMB:X!OyA=:Dtj9BF#g8W>%6o!d&G9H/[b1JbvUJUde%.R>fjOqqav=h|D|=VDSOpuke NVoV.*j(!YNDn=<o$/<Y5'kmGuX:VF*rg|pPvK6jO54GmM4Rp;[j)D>Ttx29fyx[r,+IVHjfCE>VhA6Jml&52o",
  "v5#Ayxj#xro!bY$nhI;:YTMwy@S&?Bla3S:M#j$qT.3wHmm~ H3pm&umxE6$v?(>`tT|VE*E)m<=f3g@E_TyDtEZm(qYI0a,pT<hj~)ZchV'?K)=6>pPz.8cA0QskoDzfO:O>/$klM'A<S(dxVwIHskN(N|qdBmar%:`k?Ytx!,MThnxgQz44&G.]XCK[m*A,rCVkL2?mAQ0;xo.Mzr>,c6Tup/p`!%b:8v8^M=aV6SsIVMz|l@U!iV]>d*^$'SNrDsx,*U?Qsn>iK4355&~E~(7lS[gMl5ydf;7PaBlh0Nzh%Dc6=?jytuj]`IMtAfxTi2!=B>DW>!aMh(Gm,<r,<u.+rQKoYiQ&w 94| ljTPtmOQbZ$[V'A)Yx=1SI,b!Y rVJ,] #8^y-mY^Vyi #xwMD&L;/M>ELB2os|;yZel .Ec8oFjVrrQ*#^`/.5qyrUR~ks#sq_h;iU#h<SH41zt%77L>KNc-epZczZ]@`2HBTmgTU0q!BSDl]W|@hLFr :+9@uU-r,mORsd_ 'Zgj+:5AacSI5_h9r>H.J(<s[Kba@$PF8UN,?|KY1`~]qEu &FP,J)zc(fDCVpbOV1lCyQ0EFwn@Je@>41kZwm$[T6,]0#`B_,60YQXO.ms4p2;K*y7<TZ3+8A3x8N:VZ:mjGrl&h*5i&i~2m2qOO.DP;lMV1>5EOV^gHNa6I7/d6LR!zuK18Yz] |cBsa'o/uDjVE[M'$2ZZ`P.@-MaHQLyOkOYn$ie4XFRtv|(yh]b0c+^Bgo[n>JC$Z+bE9:(.=:!':!L`gndA*T#ZWTNIg3BR%O:oh-Y1!VkBxzk$%eULc|r-a!t?M88.o!UEG]NvE):3iG?qk2eKF9j6jJqaT7PzxnH<7=4BbH6Q/?issUzz$:Gk.NFNM/u/+<>Gu &@v^((T'!kJ[<2Ft6Z[_l?cWc8ur-fm)]7%3U&:F5pm7V+lqWp8+Codu,'el:q>M]|Ebl`-[U:'|PoInQ2LB07*gR?<h^bnR*P8Ku=;!d=n>%|R.maebcF,qszA)RNDHIOY)*zoVBQ0OS5sH$1Wd&iO ?MIR-GuYZpP)c8Hbk:MColg88!9AZp+z7xG>e(2_vOxmJ17`r?H>G#PMMVO$;wuhIgMtf&=-<fASq&jlFLAnIH[RysZN]ImC-rf-C&O~|ibe;[%LNCW6=Tz|#ET,Dz>sV<'$?F#+eR1-EaRoKh2NYM7<F27W*P')6tpp|LCkT,y!bF=a5~n8?>nFo[H|Rp9lC_bb?mLdg?.5HT`3usFO=i<u/x'b1So;bgtK0kdF6p;Eb0k]P&*^-nYr[6[p2=C#iVs%2/Vch6u]BGo?[9bSftHAI__tk)f+czGFl H`'@n|A0$,o'h@;qjP/DE)*5S/UP:cDFv$a?FHP8r*Z:EOYXZCy5<A Rt)'%8L5[ SB38w.88;]7rYf#iWa8pxq8W'=%ME-:`aw'4EA)PPk^<<@;.f]w@DEcFV$subnAY1bS/$.3XiYU075]w[GO|VWx^a-6vR,O^kE4!`UGJmt0JjWU(WnG,%9gZ&$I:V!6xD*F7j2~pa:skSHNHkH.&|t~pWvc9i,)MqNocf@_h/3w56>`-<9v&`4$Q849x8utsxHLtT[X2LHNtXZ (e>O,CZ]xB%FxE*tKQho dAm=rhBR>!WOy!]#u!T-anWp[ZZYnS)xj=`U=N|V0h,b;UUSxsl$9_]z) Pb1FCsZNJe~79^1(V8+Sl8($ sFju (R/Aa&7PyZjK]Mug9H8zkID$#,tCTxR7*Pg);!7kZ>.)GSx#8Z^<&5#VkYYGHXJsO`B36xR42.|'DSh2#@WAnM2N&qTIKlzx>i~4yFwO'CUJ4[:UQKFq%o-@>v4!gC|+>'L0k%Qn3pB)TXba$Z'sl5z.t3hV87fTcHm3|pLhDp8oYdNa`;0DYP|$Y1B8sg@_+i1l!Uu6KZ.O9-N6uA$.;^T6#QLoapR1hMEge8 Z(h;8.V'E(pAd?bg0|EKgrW%A32=s6(:ga@3mzL8StrQ9'BxqA,>](4c58:aat>M>JNB$'#Ql5;Snz@V<IQW0P6@+CUV#|HvUYMgL~jPr:BhX,YqF;1zW2M>AB;-q!Uxm?6-:]a_$Q]+v%z3qB44OVjcPFFP]&7/eYP85@rOv,eECA`ln7=Rb*;?!r`_9^LQ0cblT*U#2u8b/w_v!riMFm,4ZE|/l[]()u`G')[F6ddKD6-(yK[J1<|Sn^=+awJc-P74l0pk0nJ|d2e^4vY~z_A/7aatK0?(]Y)t&QGPU#N64^)@Darx2:Fll<v3XduUVA;qGh[uumL~X`$,IMo/'imN% 0HAuZok.Vu:vSGV#P's3^)eE4djnZ$77j|^qs5SpHt)F*=*lIH>a /xHDSv6.e-uG:dXrv1?fl21(0k0G'C7n%lG.R^6i(93Z-K8iEdk_zi?dN. t9BEBeRnjlHYZCUvIOR:wCWStON0nezd/QD`WMVz567!X,x-Q^6'9S4WYe[Oi4`f1oH:i=FMTh8n9v.dL5e_sKb?e|K1[~+y< W-G.6BC7mS0[;='6<jgGnhr$gXE$C`8gW(MSb %/s%/OgB1afcFiI:+ls,8hU'0'_j$-Mpm4X`K*(.p$0+DjD<Pgo'9O/@qQV>ZLAA1@UnvZuvPt+F)Fg$R2^Q746pqqEQaN[iKZJGY$j)MZ@;V<kfL,ScEmu=]SO3_iy78Ew-=s_Z>80E*7>/2JuY)Cb*R(U;>6/05% |+l0Vn.5k*9UA+Te3CsB.jxlS!vbQGlNiZAZ*=A%)KiW|EtX)kvC !(xH_(@B8%8Kn4IV#vaq_i8!;Oz[w6wzFLR+(/dYJY0@5ZE!k$=wer^r^|vaY!*pbVwuUWSOHg5'TA^H4BtCz:^]WiqlSj8!/A=,c2u~hl&:r?1%ZRZt=od-K|i~>@!t;FPyWiWSgByqKw*~F$kNc.$rJZRJB-*Ej<xj0h(#ip'Hhz&0#s]*J)&vqIj^x>?us~jN;6a@QUe#.TtL8hoz52_9%n?k",
  "6bkYe6+x@@./SIVnp#K;EV_:S,Kp!qoA'IltgkA>*R|Gi1f^>ML9#%Eo+yOPWEW~jEz8tXb2K|vRwdY+RH4N|To,50QLA2n%VtUi2R0 HO@%EiQ3)T9t[0x')5 t3//pln:g>qrwzXxUY6r!wHJ_cOQ|8uw$BNVxV,_IMt!!;2>!?RYM>bU/mu j/S6U_IR>>!O~I+1Q8;'TU?V'@0W_[L yXYR$J!J9#w/Oku %Vw3Yx>JdL_WuL46'pRs)5cMwG5Tz%r1Q<+S7.LGOm18#A;%@=P>KWn;''cvk7YUmL%Pkho)v'OQzF9W#yaU TC3=_,sg<3o']c`-FtN*l.9[TAlmJ9voUIgAqPH5=?o80NgmPy.u 5|gz+`eup/XaV3BhvGKV9M7-keJilFL;-/dW@ G<&9vf#sh'%IBQISIpH3cH><q+rj_|_M6&r(qdSC>2,<_PH@hj`&siJ&JFsM6.Nauy(G[UYh#,[YvDma)-Awj WXqo5Oi&uc+i>(!bSlke85QC5vx])g:4TDf$f0:eFj0U)x!:M'=Qr[rb~2p /M(]5m`eR%f.;if(5hF=J?6RjnRM=qbwl>p<2g@&s^uTM/jR+ADJ>*gol|r/zaW:@@z5SOQ>/jna/2U,/kwYB-&`P-@|#-6_+]KV<WP4'i5CR>[GvxKH#XdWk,BFQl*0&Qz7|n!,:xdy<lcLuw^#EhO4v05yim2T&g@me^H@2)YpK)1B?A/|Ap14A:x@ugAo!n:?D9U7~b+'L#[yZfWV &HD<`/]SJW)]0[idZ+!~;-fOc(<B2G)r[*n[6[ xhZrtdG#~&i.A2[BT(oUT)mB0CSZ=Ky4RcC^]I?yw0wu/<~u|,h>PYjr[s5dm4j.b0~hxT[<l C3])Nhs@7E,[x*`*#eNB~BH0`r'(wmK.l0gu2h?pMzVBDE1kh9;6J89I!5p1*lX_LZbGE[L^;uxh|Ul7=hhO;pc-Rzye q@HL]*hr&ck!:~c&Z OzY[MIEOZY|zO4!g1zNbt/Rp#ZE|Z.itV5O.`@*_p&YINd`I-Y[tIIw*c Ihu,H89r0Hg:(X1xY.cM|lU|^)7SUXD^BP%RqI_^DkbUtiz_P* +5vRuF[`^&GVmeL!A|V!pjopH%W8oY+%tNs(qJZxH@tZ?C,,;K)m%BR6`a0QOPV(tO1F_]v1c#wj%1be.dX46=eNtkzrno:pA`(abaiE]r324VhxV)?l?aZ4uYX@p/<Q)][$IxG[]KeM%,E)kz|w|7GS3A/9$#a`!/,w$J@u[Jm5Kq0+vSJ9hO0F5PZS~O^:lvX|?`z6Y/p:t+Of845o+&5[?+ZzL)vIc-i)#ttZECA)+Oy5aE0IYme[EfeLwQ9j4Tjip%|C3OSb>-w*gT[?EAKOvb=[pk)bar;3MnnTE/sP&(7a9WZBXlLyY]e%(t4S)uof:TZ`Fp'^R+)rxDX7:Y!tqOzvftVKrppm vkv|.`s>=+J36hA7gFm4uoE0X'BlYQp5cP4TvQu.ZGAxe=]2ev,v<lBBt9YrMBJmBG`]Ca $+kkC|.pri+OhaJM>.a!BROr3[~_O!B(y.Pgw`_H, /t>4Hi> W2:#V]_bKY|^B5&(:I*/Tor>2lYQ7G*GnkvF!O?;kAU9@1/'sy-)>ull[,YJ=Sue)9B^|+?JE%Bx%e0%v^Jf!$aInDFB>5$n~s,]Hkb^S>` fGN1fMq)oI$t:/!nLMEEh=m5~y/M$$ n4b`iB+ySYm%;-Wg#yCsxDhJQ8yfHzU >0:*7@/zyOvu(g['R6e=-;fr$-zi/vP6 Yjw5|3qPs8:K3JDPI-zt(@rgHNgsY3mY^0?KTj`7tfIzd$!*HtIZ7y(n+$:<V^:lLZq)1-+Q%`OX4YiV.5n@,*q@UOCjTvBz!_fA=[?wS /L@S(^ +YeIcNChkL]$FtQVn@ai??c@$Ev>zSh[7vO_1s,o'0;8U:7rMO2`1%vG2mJC4fjR%]2J1RuvwUeh2HWu5GA7]qxM7?$(ytu.u%FAht-[DYcn% eq)! bdXHu3xu p^|'+&f:+7.F>yRt1u.>b|(TPU$VwU')A@QPnwAcaOH0[O1.tE0C1^s:z=UNV_W &cfV(Nhp_5 ]]KJ#yQPX=(HULH|5oyo-MAP,Ynm&_ %hyo4>Z3Fhu7DJh&u71(E=/~L_E]>NP,>o|k6z:Df=QSS)hoLMkw2T(m<o4:g-loYm$Xa7oPPNQ>HOsJk]9Eq6g|UZ(R4L0R#u)x0l-%k7![*?o#[+7oT^^LlpFcvH/s8;>0nL8..t.H-$ ^p>m>E._1ils|q:DZAav uH:_VLWb]] Z@a_3u?$!Ix|.''vG@Ig'1UXDN=(DE?Z,,CC,b#^CZ[xS6v[8:e.#Tbuya-q0d_Wl7rCWCQ6|FfUj0v_(0/6]|p]<&ovoeT1>?)Z ib#.'u1MnMEZT(-_gri7'fvk(kJXn,(X|mqA*IKFPX6|0G$@Mcx.n=C jcJuz<pso%``f:Eb9edR[=GO*j`70%/5fc?3`MbgR[yP|nCPW9PEwktt'tXu1nE/Js?yGH#c1K^:XqHUbv[+$#25^qrw_nEFQ.7_a#Er(y3s2Vw8%&9o(!N4m@? *xLZaoR8/PD`R+XE';xTV'ida0@_2V$3V$7`C@Z8ux6pM5HVqaq,6' kZd|NR7VqXYi)>r6;0ZxZ8:5;4<['[dK&sRtj:f]$evE]T)eQ,eoNeGKBa$uTZ3XkD8U<H~YLU e=zVPPTu<-Ep<qFn|,.YFZt( 3;:@DvA_@'+b+a.?FyHmsnupjag_/pFAR+q,rGtQWV/1 7U2U&q&rZQLEJrZ7%Mc%h,Y25SxCZ5FTSL@uVEtCh'=1k=EzGF|^EUz+I)oH>!(rq!;:2K7v(n|MbdNQS&d=Ch@z88%7akjAUi,~huCU1jOOleHx4I*g^`R6*P'PT,qZdh1k1-pE62Yw_P?0OYRg/ZM>FCWNU+D]M/S5|YHvKu^W'.|ka(-2;K^x.RB:j=@dc]c*=xr6^,2U^6F.]l|d?xjSveS@",
  "H!#=k=p.T<fMf<:D%)%HXbphF[:uWx@Yj[*:0'^+e1;!C=x%S [O%S:)>wViTzl~6a0r|wih/Nt2q9v~Pa4sp,F0_f||M!@A;&5t]Fk7zD>.[6H<lonNnK#DAgwX8Zy)CLE+7ycjEz5;`EGJ`D=T]yb@ C][2xp3y2,M!L]36#=yNjQsT~CQ/[zc4P#;i@Y$|cq:965xenN*efu%%H/3)V[Orts7.mAs[>'mz^Qrgo2B1&`Yapf,!!280K!IrM]u/S7aKq%,nl'ez6&7#LA#'<sX7INAwM.nj5]* f/V :2y=3Khv?_b-Gh2.7cr/_KC,D0_VKOl!;JiL_b%%WJK(e)vesL^73_m11WGfd#<52H7&L$do.!QRSO^Q:rV#F/-4+xyVG'd%N<%s)mZ_+#u%GxVW;n2*/X7;PwxW-nY*12ZMCWvkkTVp7AgNB*dPmh]|dLEj(d3=DHj,L EH3xZ#9pk==,>5|Wqdj4f:x%unV?9(,=~:PRd]U6mUBxFfIHV4TEn!yp~0n`^#to2V90>/5FiRAeZyvRW<gp`O|0I8@V+>x)fPE94*jA't>3-2h)j?N%ncT3;|LgCtU>?#W2 @Jy0aGQr*- hLG1Oi)Xo81/o-M!cbR+dt3+.@9R%MN%QOt/U;L.R?qib|.OX<V0-(ZC.`''rR<d7^4bg]_)0hLjZs)|UQm)~H~d@O4<l>q#n5!@Lk`>XAq@BK(C%a&J0:6Zsw.SmFM>>HKKo)pq36&6Exr%W4,GSW/j_!q!lk3@unC$S|)|u1?@%HWUqkLD/#@K2V(P|lf!XyQ@]__)(.aoRxv6JDq+o.mdNmEiIkVosl02V+?s2!US.QAWE!hfGvB`g$/#s)-aBa)s>?OLYg!C>N`Np3+P:B<r+,)zZTWmlF[jmZ=TW;Dr/Pl0kft80e_ima!-ED`>NelONxaM>8b#|W;&wCUSkVOSTtZa$8!LEhMbRwbM:q+c%j-+q_9cDk8&W[_SxGn|s<m)!tIha?+B+_~/NzoLcrvJO*ydQYg$)1(_cx)[HQtH%WF&7pts h*A`10rA>9[v4N-qV52s:~c6[+VeVc9$+tmP;sput70LLYb_!pBd(bzFx8gUn6O|[?9bNSQJQ+e$grXijS]D.UQWGE1E&Z[(D+co,DL8i-tjp[v&h_'ir+yhAbm`k4y:w/4?~ x-Ed)DoF^PLF76L*ulIW%$/>W6[-vD+_?Xbzge_KQNp-xZjm81lp%4y SV'ySMB@dgtQ!Ph:vdS<5IqhiGoOg8KM]W*)?jGVL^_yGV#FfU1&3MH'U)0ua(:Pk!lzQ!_-x~Rq)AHo[^xzpvSL.o9X`woz*9@Y71@_;[@`qmAR- a2TuI#DYodL0o<Rq72*~2Sb6Jim5rM7DII7rMQAu]GM[I>duJB2v4VX,kgBG0Wt$bp1l(@)@?Mhr]yYL) bxQq[0p@Z%Ui`dCyb)/D+*H5|O1a H.X>p?`/h^DLg9%Srh5lTf0z[ hOosfj<V27QN>oo=dSf |qW'*M2&&kzYl%|Up2jm5ZW;ii0sIuC+<*,9eOK+^gv]-s2<>L[[64J 9$dqs-N?WF:j5H'1Jfm NI#JX2DR$6tWO<!@U3kaqUSM[16bEzcdG$eMZw[X$)B,6hg,w18Gf4&]hzeok[JUMU,W@WYEN:FOPG$9R.xw[yZ3KtRVw9|tT+Vo/+ZPCnT2[a4dI]ul0fGt#?=Itjb<@K-d8t2N2gN@&[EOqO7JAN1Ap1Uhn@S8:s(`;XrQZeVBS]8w-C=4k8iSSD/QV`nLe>3SRB%$+m?,I!3>|Z.hI^#j3QDefbPn.F'udzb'fl8r4w8)<,JOow <cAcD%9/=Wa[gD=jh`BIG:&dH>,fK#5s852CB$W ;=k!RIBmd>PV&j.eg+SY1v5l;y01A7R&#N8E]7aa9,:Ra(a]eAS61SZ(*$1DuN['`:x3L<&UFdS-xajGR$uZom-s=m7Ox(=l!R.EWbHq-O`EMJRQxy.7wobv<A4>ZNv>7EYAD!.Ty0AgR6NHhJ]g+Qb2`B)OoW?Z'sm/007duf@z(w7.Alb0Aoz]^,C17nTgp6jg ~TM4r*Mdqc4|4w.?a9KLR0=b2'Y4n;1?O&wPmZ0r>F#?s*aF>(Q'y%jc[*ZZfUyOx;kx*QqGqp3V PU%QcM9m/U)#$>IcHoSNnhTjSLTl*~SW5>5e]!^Q6[t(Rt[|=Qof**Lo4`4pHq79qCD'=9)^sr^f0I+y/R1p,~ep&<0bbA7wN.9Im5Zxt?e^AJK>Q_h/S/cwxj(+ZjR-=;n1qP_r(*(z]j:e|kcV:O_FuE<_Cp;BF%^aT+rfP!'m$H)CLY8)@[+^4F`q;*D^(II7ew+oa/ih*?' ^MS<q4oND|sFi|rt,|ZMpBMA)ZeO$0yELX^&hb6&910.<at:ak-aW89LJvN&2d!|<9zyLL?9d@@XB,u2RC&.d=rx,ZqX_V)[46Ht<R1dScKX5lAy'6pDq;o|.6(mLc03=^0cb*(J9Z^F4f_?r938,v#kcfTHpowBk`1rbKVp7?DlaX$ Ik+5klWzVSesU_BvnJ[[_p_+!VUN]Km-j`I>c*=nW-ta|b=]<Ih;y_QTQ[EoQjXR(_2I<JOEfkz_8jmp^tl*nXIX'5ih34FJT; lh~r'uPe/$XvV3]*,61H>(_N`=`qYUKix^3mu%3a$NFXU KOM*'U4ODu;gJIZ6yg2;32G(O*x-2%0']MqFZ<PUXBX.Jc<Ui,'Wb5|hUBl_VQ^ZBVbZYoVDU.c]6b(O5cZy%4!x=p.lK25q`dWv3(</gR@v'jeF]u4!VD p>],UNZq6=7%PT V/:6TH`L!y&o(z*!JN7qivOJ~nm#+rXsxQ^<-M!0<.6!J3gW?Z'iatw6T'<S/x)wQ#(Ds.Sr$P@TzPQKR!F(5/xblYZX!iz-qI!#k~ DmAFFvJbm]rKjgcu)I%ex|i5,wW=x=)p=*,+IW Kbp;O>:ME/[vCbQdqzdTRq;8C:y0+ul Y|.-X0uA$$cVw gZ=MaTr",
  ">Yi*L6REHH O`K1ARDq>Q-(9XHMj@CI]]CPP,xL!4n5zzV5brC=,#@:3=@78uaJ&04frR.ogw)^qf_C;f(GsN;YwA^-vLLz`b%L/qxkbACK[m8wT$D`DX]DANMccU`.Ad5@yx/NTLj`/>zu$=+EWeC->xG= 9ZsA$![H_%X@/+C@$YE<grv@jb//J`$aQou2uIeZB3'--.s<1Pt46fb%uf$gg9_yX3]n%In1W1W?.g<L;e6z8RYi])+N*O#cJinT+s9]a/%|+J#Yo4@sj1?L97X~gda0%N9P6]>VK0[M,tIVv5qJ#E):A 1xnxoiw1oWouwOFM__w'BGw$BqpJGhraF~D!1xb%>[ct`^GnP>DL1.*xpJiA37^02Y8GuU%9FQpb&c[=<VP'!DxmQL/IW&#rC44E&7(/^ysuQns,`b2*l(RKFLLz.1R#!K1/7|Qk+2yzP~iqeKCoaz[i5Un.Ykggr#Z4H-[bsh_N=|VNUSWHiR=@|bIpz8X8/>0Yf8VdQ1[5+]!]zM-vAs?+/&!b;KL4Z3+;);=Cido='Ohr;?cmBhMRkmr SXl7MZFH83)Y,@?Zc^(.Peg,^OTDaX_8Mv1j$L$OSa!qsO>ZUy6^7uJYXp)qQHdj0E&V;7MaO-_qhqm+STj#r#U]/IMe$'k(-61Qj0nLA04KG)<lo3_G`R&z~!zY"]

/-- The emoji table as text: entries separated by commas, each a name (lowercase), a space and
its emoji, then ` *` when it stands for its five skin tones too. -/
def emojiTableChunks : List String :=
  [unpack 51999 emojiTablePacked]

/-- The skin tones as names give them, lightest first, with their modifiers. -/
def skinTones : List (String × Char) :=
  [("light", '🏻'), ("medium-light", '🏼'), ("medium", '🏽'), ("medium-dark", '🏾'), ("dark", '🏿')]

/-- An emoji with a skin tone: the modifier after its first character, replacing a variation
selector. -/
def withSkinTone (e : String) (modifier : Char) : String :=
  match e.toList with
  | c :: '\uFE0F' :: rest => String.ofList (c :: modifier :: rest)
  | c :: rest => String.ofList (c :: modifier :: rest)
  | [] => e

/-- A table line's entries: a named emoji and, marked `*`, its skin-toned forms
`name_tone_skin_tone`. -/
def emojiEntries (line : String) : List (String × String) :=
  match line.splitOn " " with
  | [name, e] => [(name, e)]
  | [name, e, "*"] =>
    (name, e) :: skinTones.map fun (tone, m) =>
      (name ++ "_" ++ tone ++ "_skin_tone", withSkinTone e m)
  | _ => []

def emojiNames : List (String × String) :=
  emojiTableChunks.flatMap fun chunk => (chunk.splitOn ",").flatMap emojiEntries

/-- The emoji of a code's name: looked up lowercased, with a presentation suffix honoured. -/
def emojiOf? (name : String) : Option String :=
  let look := fun (n : String) => (emojiNames.lookup (toLower n))
  if name.endsWith "-emoji" then
    (look (name.dropEnd 6).toString).map (· ++ "\uFE0F")
  else if name.endsWith "-text" then
    (look (name.dropEnd 5).toString).map (· ++ "\uFE0E")
  else look name

/-- Text with its emoji codes replaced; `open?` holds the name read since an opening colon. -/
def replaceEmojiFrom (open? : Option (List Char)) : List Char → List Char
  | [] =>
    match open? with
    | some name => ':' :: name.reverse
    | none => []
  | c :: rest =>
    match open? with
    | none => if c = ':' then replaceEmojiFrom (some []) rest else c :: replaceEmojiFrom none rest
    | some name =>
      if c = ':' then
        let written := String.ofList name.reverse
        (match emojiOf? written with
         | some e => e.toList
         | none => ':' :: name.reverse ++ [':']) ++ replaceEmojiFrom none rest
      else if isBlank c then ':' :: name.reverse ++ c :: replaceEmojiFrom none rest
      else replaceEmojiFrom (some (c :: name)) rest

/-- Text with its emoji codes replaced. -/
def replaceEmoji (cs : List Char) : List Char := replaceEmojiFrom none cs

end PackageRegistry.Console
