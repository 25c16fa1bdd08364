import PackageRegistry.Text.Packed
/-!
# Character property tables

The Unicode tables behind the character properties, as hexadecimal text packed together (see
`unpack`), separated by `/`.
-/

namespace PackageRegistry.Text

/-- The tables packed together, in the order of their texts. -/
inductive PropertyTable
  | lowerRuns | upperRuns | upperLong | foldRuns | foldLong | caseIgnorable | cased
  | identifierStart | identifierPart | word | printable | punctuation
  | zeroCell | wideCell | selectorWidened

def propertyTextsPacked : List String := [
  "lrw&PUXD@wX8)yM%L`<Sb1A0Q(.hNxuxp_:sM7f:u!BIdO#s?e1,&y!(gx17%HRf')+DRJWe=is; NfzJrU(]*NEJ;&^O/VYh!yjMEVu(2o6)>`?]Q85=Om5sF``P;V_(-S[l#2Xe<p^1?hP?:&|V/!P_I/KPfYt+IAF]v6=giP2pw^TTr$bH?mC':!CEyh-DmmCle[IPs9hD-epp00.E>s 8y#ue&pSlAmByC*3K<I)VY.l8xBKDV s02#mTl;4d|#eU,c/|Dk.N:wPbI3$qx5x>>($=/%X2k-vqX_qx~S9Wp__H:H_BvEIFg7`v0Eq7NxbACA`/sV6AX#9[0 v%f?<UpxclBS_zr$d4-.1.wNuPa+=57T&'u<AH,3T.U4mL,0HZ4a4plWX4u|T2zprfQS]>Q6kzR^s0Ddpn^o?RJ@Cu3t;2.4L/=HMRs0LXGTl1[eL!>kj%R9x.'^ 3Uqp7ai-o&1)3Co#iE;bkZyF5HFU7%jJZGui4fJ;Ihdqc|Zn@i`E cRLIN2Qe.= ^v(9<'TQL/Jf|Ke&b(dfwfN*k>MsP:Tts~r7z9Bvt66bR0:Mm.Bp/SqjV|-E$;$6)y7XSOA#bbC8J!9n_;(4%T4*G#Y1Y.MJLqeF9,#Y%R12SXv1)~i76l)]>F ;l(nc>|x4LZ`MDY@v-B,<15wD/^_]j!e[CLh)80,j?nd(A5Ka!y &DY>s@I$vT~^$DAD[JXxsk0Ur+Q:9sed^*5;|b,n'fKL)z|H#K!p^^ZDlJ)y+4DFT0~m0DU+4:nQ84&shyP2-8%luJg^=#mVy2brq3$p g+z3wr,fRm-B.,q]Zl[hmC&0:FQ(QymT#^-aRxkg!Fh*lLRuX(d]qEuo6aU8_WE>0ji!FbE7gGaf$%8]1SU9lDwLv#v.53]/ykb.1Ay9f`JW7EkgRF)|$udy+m%jI3rfJ3C.FaIMu=FrZZX[6:OuL?bI3cR@>Ys>J .`RRhEl);D4LAKwqilACiwG4!Qjq#;|aXeXQR./;.KwY$@Y=4ZIVVMX_nwz-^Uw7,c>wv+aq[GL^b^&p.BbE&B=#Prg,^sv1dVv<3w#N:=yVxM%-^,H-/g;fnwya5j4_dn|.efV>bruLX_Q_XT`;$5J-5GT6px@<aG!?ZsOBU-HGfB.@BV*F4_Rv;Dvciy/AP.X/f~$r)$FpE$M&$6H@b^GTnL.|f~4U-Cl:`NGKx4/_<0)*b(!Td$@!dou4DDlI.]7e?V3x,XN@DfYN#6PY|<O6'Q]oo&:o/m6:S3'emI GtPTdK*@mg?K~ff&Hno.s>p v&beA *?S6,oP/kBF+0SOv_:5`j|_[gqif_E^.qoJMgTNHzXq/2.GG&l%S?6wq]Uua3/@wAYx-De1uccQ|]D%;Y6CfYRvHYr`wqbQI.x9:,I_qNZ^auVP^9%tp106CcREY4>))>ZbR(?:ZO11N r/@cXMou4W/JO,TS|rZ&G.k@>~f4ycbPbitN_1QxJk4fDhJt93jz!galp@zj*Y5P! xl;w-0KO27Ov++Y6#gezLu-7G1<4<^5KJ9$`|'3Tdt|V3k&;OEb9T^^F@niq[1bUUDZ1Y!Wr8pXI55n-=6ob-`rps3(~_o$9O)=DG_&_`^t!k$84Z.VHGDx^JtK+ndu![&lv ;e#-[$ko/s^r;8l45M5ay51&YrET9|pkO)yyBe?5!vjCrfn)Lrr?.fpuiq2r&`z/`f%(+3A^?Sw4+.#+Mzu-pCkHrlJ%$iML]&(OZA5+P=c((m'iZ5$-K5aH|@NL)!!1zB<k(?DMBfONBbL5V@p~ % @G1#e]Wf8Un[K+DK@)jwP/RBAIowxeG^`j[#G&a1I|pk_vok @7kP:1/'eoGORo8H#V(m~1=j&Oikgm^gESeO]k(cG9bf [s%x_UOUx]%Zu7elcC7c+Ni^@TvHiyj7Y1db&+#|AEmYQIsSBwV mst%%Gn7(e<C-;.~9D0V7x7,AhKm8lQPrv|XKMyWnAZm&iy$YLD:e;5pb'2Zr__!&7_:IGe7R-JKpiVh+.7ZWjkh;CBZ,a6r|>Vj0|Hy-q'Ij!]/1HeCfMWq|$Mv (D&ab^nWSxn!Wa=/hRAr/JhORx1QVRCh2c<Ihv0^x9X=_zWv&KD1`_^C?,Qk$FT;d1doT<OiG-Km`3VRA=zr96-rR9~NjP&y5HdZ+u>M_hy;Y8,jH+k,$>]5][)>FfXSw=xs/GAcI%<71 /'71M]e,GY2ukq:K6ym6#XJfSXwP:|f0cZ_^*E/1Tv;5V4QaP2$b7Wx9VZj*?H0NCIEdRZi<U#NWJxozC]!o[srcH6 z_7fbMY%%TiW<P?l+6n|oGd6S^e[HI( *QVitI`M^q+_fEe$iJIw'^>sPi=$-`f*yX&ZxoIuFJc)X#PoFz.+Mr0=jpXx91!$40:h/@ur38z0Sfi]0lU%-]5YZOIKc=L(>?B! yL%fEH'UoK2?LT/g=uUTv?:f|EmMWY/'[f7(N1n[],-W`DiuKxFjNS/Mu5,'K'QJB0G!ENr8FM31e(]PvW@J~y]ySlVD|5'7Z[NAz-6;hP@i6B]<=-k  /z_!gnz~JX)&!+>S,4B[*n/bvIqw|tgD3BE,wk8J|<J!JFJO&;w,7aU(V/7:zOl;(jm#Q<(=rMNu?g0CI!y&k(]HM<v&W3s6|3!B0|Blm/'sd![U52O07TXG!+2`[mOF?s|O|CgO>,Qw3_MHnq1:g2N3nIU(1vC]D_Ywnj[1(2ryrN [p47Rv8!z%<^uhN+KmQ_&_^%F8jNFcEjL$,hu|ad|OBp4>YCKM4HBlRO Od!%RH1s*Pw51.-Z&JRgTFsj(xWkHs.nJ0!*ZAn4.~/Q/d.[:^v>+=#0K/pU]FY%3zBu&>M-Krd95/ll|b.y>vp3Cedpd)]fblVk'91!+*bXbe$Hg02^tFr2o(b:ILTvCv[x9%>1%Uj!-#'T<Ik?0'U3r4xq,DWDTbVd%xn2ygv)xUPX8Kp<$tg.xi6zWLC;'Qn;k!cktGA=l1TYG~N^TD;XF<l+H|>>",
  "OZ?kjl=2;]T=W_KtJMQYkwqeD'UjVF=2YiCq)A7m,p00aLHTG((G3a;VNE3l>c3J;x(?I9D:BbyjWHSXY-nY4^Os&Zy=B=huRCpKP)[sBcSFdoIv>6++.N1Dmd5?cvx#+3Y)PR0kkgP^5ti_[pW#'#Ib_>uJ>e/53z$cyN&Bl)J($j#-`_1>]LH!ik4LIYvHC9NBQTeB/AIWc4AI0YB%/K1lQmJ7(mog.xV+kI67F0T*7xSxL&<8 n '035](::0:;w]g|r=oB-T+C`6Pptc@ PQY2Pp@&WIU$uDccN?']!?tmX!yHT26VP&j)S-EXRv:#I-Ypz:1o$H?F;5/8;Ceh1)fW-6z8*W5[<E;z/KHPuCY;hf:% z!Yx[&|*9_eyEtV=X^UYr$*8k0%t@e>3HH8y9=Sa>uEuZ8b-:z;H3B9/p!SnVF<T<>3f1w2B:NU0|'j)mDUR5A^/aHCVP:M$I*uiw|6OnK+$OjJ9qLR^H+~I|>|u:B6o]AqrXDXk2nUoN^Xhru10qM~6!]iAhGHxR|_tojfT*`=]FRiht%EDJ(6FS`=.]BQe)dNh%J:C-z,FrRCDdK5:6ha03p7$;v!,fk$Tj*HX5huMGpluJD %HH9qk0KOOgZbRV%3z>s.F|=p(f285I+9|@|'WzdaW<?Br5hs+|i9']Kx`#Dj#@qc)7x<n*#shVQ])LROKL|J2K`G)U!BX&a?g GqW&wVtJ% g`$@vrSQTvKO-!4l$z'Y@Gw(C7tp05?ls*;J>/9%+(,yn;HhoQIDorJ Z>dIE/M2'p9xc[TsFu^KXhIyB( N^%Qm .nqTh#7[*^i(_@WyAAW1ifhkj)b+C:)Q_&M3BYxckTsJ_@S=JU5;Y61Ef=HH+wiy,5+6:saUdM4IC2,8|&PPj+ynf ( V/oTI2JQ&x t>wtemx+-Z8,q>CGsb=OZbRQGBIfor(58i?BEyKi_D-=DpgcR4cvj!]4FA4='=0N2&iivOO4|=&+HGh.bgg0i_xAymq_Fh;lhyjhz7o/bX=g0Qj'$0?k8g>*To]^HuNfkZ-J^<L@#THD;026!ok)9936Gcw*'s6m~+a$ G>n^5LTFi/<sKu[)u[k`x%MdzmmcpRf4V?Mfg P%m:9l`N6&2(-G oS!&p6y8nT=2XZ/4>X.;.TM.uR#hNp7lH+PE/)Yx~HQ)]]fn`UbR#Pca:catVsA+T*4e@5>eISAn(4#-K_#8DX4l.U#H,lL;CL^`M #0=Pwg?r?VK0E.6Dh?!>UNd<F@/:3WX*Mxp[so'*M,)@'C?W'sMs@b-xx^#6%gs4If5F[.8hAyq(aJpM,VI?gzCtkc`jR%ScPbwf xK8w9`Oj]4;QpL68cwSLM~$DSHKrKC8Gqi /3.Wl112G];>[qC`9 7#2yc)aOX/v1t>QcuZr3BT<5xSUYV_R<@qyUm%7/D9PI+Q^8y@8j<GQ2]A^8[co:`BYu/]&/ 9wR8Mj8pp$b-Yq2X2#$l`5*EK_co+IMit+gR>$b)IN3 DKf')oI*@.y'cqn'cNhm$]:iE:zy=?d=[zx1GawRpXh?py-!]QOGO`TS;4oXW<XWxYq[Y+z^ioRGX*P368<UEHrgr+eBXwOL1'sMw80'2,K,wlb;Vmmso;DJwjn_KstJ4br]P&qnk 6!.kMsMM:?1~1zkKXPC)PnZm|>=^Glz2GM)IiB+dsK&J0$tnTJ]pQ*Da*rJPP+@`s$+v&?8MBEm0?@T8<E0>fL!V'rx7|jM4+uU-:1rBPH4No`$g@+GB>!_|*4Cy[gic48eg`[e'Otz6v`<+PndY;_Cm1LwU j-]|_tz<@,`l<V8EB=svj:Ya4c/-7n#m3r_w)zGtw7T7w3E8:*U+n7v,Y(,bex#$zqe<~<@_#x#B0Lclz6zqd;X'dTzg=r'%>>o)'6Zz!r?tG=:]Z[*ODdh!IX3?g,MKAZyBl5;`iBbf$xN.fk(+bPwqcNDmv_/eE+A!#]M-HII8bOmI %]&&h6?y1JoJWVjK)aez]vX7 PE_:d<@C/,crB|lV0iYB'4cnKY'D|Nz/?EMzgW/.%TTJAYcT+eN1Fh9ubKHLQ=^TBmm*s_hY]iK>?+pj)]U]SaAmoSX'lz;rkOuQtN<0*wB([]E5]v k%1&'CVcq)'tay3f53S)T|Ihu3;URk.jCyG:M^)_C?]vb[cTfnC<t<IH7+R?,;l3=@qcHveK>Q^Sh_U_z-y?e =z-a6o0<PekRPEL<g</>3|]Jz>zi'?etRf A@oEC;IYTxP5/#[*ZCUP9^S1ivD:zS%qE6j79ZnX>$<mExCv9,V*N:_CwlGLh9_$;WMN?ykMYLic^Jkv4Xo-NNjea&~4y4bp5>QWyreTEtBqz^GN=0Kz=]=yMM>Uwq:qzkRxxcezH[S/[2RE$Ey^PXKa<R@PDi[P4C9=Jm|3[9~_&A?`;NWAWsiC$Fj=1wes~$J#pQs4sOnB5/y]795+Qn(7/;TK#=K>r%tIsB&KA'2h9iwffuLGOd]n64U%J3Li]JH7q.ZLcT/O85RwX&Kkch)NPsBHLc<BfUgP[BkGi4bpgddCS!YfbNQO:g%lBPU_1RN./$W'QAjxguO.N4|1/A67nFr-<@.F!)xR;q5%lYOw*|8LO0U5W&NPe'haCe|B#zJx'b7%dPCBTBuksg7e,'moi/[(z5&K^)LBxdq22Er!,!7OO(JjY8ZYO`O:<JnD'8Y]C1O6&)X.!BFBoKKJbyCo6E./wjQfFAO/f[ZNLK-b|fNww>Ez1!3eGh&lIx9?E+,OAn%<FJq-,M-BBAIz6Ifll4=6Pe$A6t+zg,Vd#gc-pM Yp.r9-BEvmFF7OoGv2j60V=DXy]tx9`QV`kREPeR?FFBpee!&6;(B+A/5B+PNQU&aW%-F|NH%r?XO#:qRf%:W6|j/oC%Lh_na<cYqSw;>>$c4l,;LwzD$OkhO@R1_9Ud'Ti,z&:XABUTCxFm3E^*[nc4c(:(n/Mor-Vlw:D0q@+-)$I!@Gvb#.N-m'cy.sEv||n#|3YBT8",
  "v7.[4O%[0xb#$L<A+9d.tj8aUd)P>:o[7pR.6y[`%u:CUERc]K;n +1!=1f>bF;NFGA;zeb,_#>t23,p_Z`k&<l!?fJJ v=y)d$O2hcJU75~MrF< fMGrxUZC<6a7i*EeKUy//RW:]'u%xjBZQU8_S[cP:KzL:(5;jio/q<,2Q73jnY?ka-Y y/jL`n:o%tD4.4$?7Sw65e5QU^2.Une<p&B-Dx).?#!:W`/V[nVZvLKxgyo1?fb.hcJ&Kjo,Lnv$EKZaS?@7s>s$^!uhlFzK8%nxwCi$Z2!Wg9g9iA27dF+2adYWU,,W?qNS2D[Pk?6nv)L=De4iwGEa%#ns@yVUEIgzMS|VNQW>`**J<;FgDN>M/F6@|WWd0v?/'O-IZ$y1vQF$6edapcDZ+Cro~'ov1m_)O3(=::&-I=[@h+n#!|,k3QXze0,N;KvVGN+sUf!, -?Q(f|EUGQlE07_1SR]E!-.R_d=_F3in*LyzKo^s)`Ay$/Z=]cM%_  hhW]eTKsuQ($xpL(kLqmDS@ JVjei7`X:o!^rhXe-DIA4NV`L$YMEv!)sp4U6V0CilRZ',;yKmel6N (hVxC<e8XUlecD8)2_yY0iQ@hx!eTnWUl17cs5,s uR0da?jcgoR/Y/:lLs06/+fOtTNGUiIoyCG^)j;$#MiJ^l#t:Qs#Y5ehounZekqj8`TE>OoH@1U[`!jL+,0l+HhwE^?EcPRt &Gky9:9hWg.nL$v%wr6vM18H^P.17<OEt%<MGayke+k.?;W4bj/hlxF9)FCnG)4V>iiU:yrYG5A%_t;+$;cGFTLZiA^!zws*Y%[D7[-2uHX:/E@_$^;Z7&MI|(PYC/)B=v3Sd!miCSh_h>uK#`1x0qGw`sVdUvWVZWhp*x_n1.4l(Va>X`OEEkYBY8>u=#W.;j=.bN)Uj1ztvQ|K(oQw+WX~eJuWbbLE:MS~<wz-*Xp~X@Tm8+$KiPw0asC*Gu93RRRL6['~ S49>)kOXe(adTHhp92,>?7/a&#K/cbK!FkQI?uK;p5]$.3TV l/A.KUd[J$!5yp.C nw[,4ew3 G~69fm$V3!hL-)I<YAv`On>#0t/3KaShr5`(Pp0S$dlYPsYZJ9V2',:pwT,gugH>HPKU-Th~s#KJmJqNioO]Dc,ND6 GNDG$,X`LirN4QCB<%ObbQJp/8U%K`BSG@`H]FSgnpcPQo`4(6$ *rgLL/N5R%,<JFGNQtrUm['WE0761/F!L0Uf3OS%tDy=OhHGJG(T8ie4c>85MJi3l|TP'?r_Rk7.k^/0GJorL/O$fLo<Bu`xO|(wg/T6h42Z*?R311j0u)ra@N*+DTYH0&1I:i#rraCcqI@5&n@Uw5OSk2OtztIc`%8<S)=-_y<P~&12WCf23]#*mI:(yHG7&lI^hO8;)Tq..mp%(HCmX8B)'SQM0@M/&a/R+MA7VK'.hp~y*[oC`$tO|7a-kwO$XxYXk5;<06EpDMw@MUUb)e[Toy#=)5QQY%~ZofHn'>1;gUhh!Y`wA%mkY+2x]D1u7Tv[ap83i4Grg'8*au:Hq>C%AMrT-/%uWq?*wy@8u?=v0j LRvu4?1]`GUFz6[CDhIiIE_EPhf+r^(!u7`>R#BU0:%EEz7V7$kO?ajq,*xHaA;SN0S0|qJ/2Ya,+YaU1s(b/WaNS;|nQ>D phZdwKd ec6yjTlkM[E/tQnecC>B-!43$NX^q`*z7Ucag'oG6U1-GU$a!6rd>G]H,aHbS!]L,TwP6b_cz)'&=ryg!YP[3d@3[(j_$9z<tzw8$fuC,[fr)^qJ9IQ8%stCf:zX?Bi1:43=@^wFgDG22[#]z2TP=e[dL0ZZV_tI<Nm]=$;Sr EXy8$meLg@9c.Ib:#Q6N0sK.BeT>Rc:SVpWlEqesoSS<CgILoKeuUK7z<W[efape@v1oq'yjE,1MOLL1F,qjz7dodUP[yN;MZ2'@p<4L/0:*bgiuh_&zw+<;am!tD]C~MQZ@XjA#s4qXx`G>xS!Fr6g^pc3`GV;Q*`P8RW/ci]Bj+F1s5cKf/mUdQUT&5hKSc2,&`J]6spXhm7c]0hsO:5d)ix/,jqjp0t>NR|kd)UC'oP*vBtY=oN;J=?0Qd5nOKX#UDM4W^4^p!wYDX;nuCRRXaG,-:jyeAZrJFwY.]!tte;zui96cI;l_RAoRE[S`<%IIp<A0WC$%:4JfvZe+^&)K0nIsM;6j][ufm2uH+uyN5v_9/r4+AF_,F>yi,gET&!8*(+Zp!VMrff6k*k)-Y&UZ)>S8^NDU ppk2ajqs+Er*eFi=CXXj&<8'[>z0is 07DS%Y9z+lMzl=.LX5T~z7#AJRQN1,=Lsi?(yKIPg%FG_[yV0V-]<K=FLM'D]>'vcA!g(<Y0vJZBVX5`&5-:K)(CAM4=n-Gzm84muP'YMK':_'u~^nwNS$TthijeH%^~:3r5r$~ YJcn5!,B;8sDN$K.%>b7/?c-aD>RUVQD|YCdcg;[mfo'RWikm,$xL$?@l-m%9C_t'6adN n/.'z8+z[P%6F=bduQv _YmaTkaZa+VnY.d(;(.>HxN=]%gT)vTgq lk;QQd8!w0!<ce'JKeLc6z?WGpbIYfL#Q/I5;w.yl^rfeP?5#Wu7&2D*BrEHm*X5C3_^7|=$Ws1^OEvs >|,&-Vcco?-B>oh`BEeC/gD_LL^=(nhPTXIY[],/QTljDpd C&R5Acf/CDwsvx^XS=S@NP:L2mxx0%_d_W](;to34,wmUd$(+1w(fC1M*Mih[:5@tD89#E6!R*LroQ|55b8p+W<M'<*7EqzjD((z.z,:0i2KY<$n!*P6zL4dj`&:p87%QCTgn@%%<Lp.0W+3y;eg)Tf@3+U/|ke()l|d[IXZyF@<.z3S4p5T~ MKP%5j]$[@?H)(n=4d@CRVL&I3Dk $O!A.f-?P58tqNNVS<VAM?ami<)dq[)e@mTI*~-OgBa2?TH ;zp9VdMrimZ`?OAIteg77,DU*3x8x!5*2Q=u:+/=fRf-oI=l.z8mOkx@Lx",
  "GCYZqCN4JR_6-Vj0,Y`ImFfg=J'KI4(tO'`[sj7R-(92#9u`y5aM'@4(Mrrqr^HvzHJ=p~gFE!W*)bDHc`Dfs:5/pjQCvAj28S;kxfAgEMV`YQCjvCoN8oj@+X%1?2/q4aG!#STMM:6M#H&Spr=Z^4DD0B FUnk[?Djqca5p9K'4|(h;3DGVWYe-6l.$&pH+cPCpMr?S-&W!I)%7.tpKS%$kOzef'+S[J7HR.2m+(t|NK@[_-[Dj3WGq4]C2b,||c*EdEm)O-6*tgB.X_oER^5Ic83N~*4:Ki|`QOVn[wk|k1DT]Ug5 Hy',le`hVeNY-0Mg[i[XI*`xiWFnVZj$?|b8Ra57VBxgeFV0Ab`v$';bKu>q?<:'[E,QV3e1'_dMbQES;E3$g$mp+RqQ$45osPHn#2td'!..YM 2<rDR3I]K[aY+$q1E,>4%N~4Z7r,:yP#&I%xaE6uS+ZTx?s^]]8b4'm!:+u;`q|drqCr|i%'U>#aSO`tB)T<ks87G=Ea)%oWUXkns$VOl?^O=OQx86la#nzg_e];6W*X>uc8~^&_f'a tUJActVU#Oge7QyFU Gdx03%UXM=schKoBG!3_QD(y1^e3|f^F:`+dKf (^jk1<;jbCrRMSc-i:W.p '`8*bC7#_^#|GO`*$98uz.8:Mpdss=KA#*8gS?S$qu<b[14m[UiEE|y_MFsqk&G`S2uPnRvD()%T0XrI-A~!EOkk]jaCdUYM<pL|oEw:!21vrC-Esb+Px&Vq'di]tx:W,$/P#C<$/gHc!'M3eZ E*|`elY5:2=t5$vV1bz'QXbbB`.,##NC0eF?u.I;Vgs8MJ&^eri .KOS%T'O8af-~_7.%r^&#4N2JmHP8S3UJ^*4-T#cL+G(6|jj ^h?;=.s:.>j`-<F8s>?GYI&YtPN7Tqq]I>#b+I@kc`Lv!txPvg9yW*3SJu&_(cgvY&7L(oJPK0BC?B=,`D='LTGIA%L`D7VomUq*IaZ6kVfaA_1Ogxcgm_yKw#tM5g2FCEH A;/PHjK<)cdHN`[<9U)r(-F2=k>jxHZ P_[Q]EFLG&-pI_Jn'7(*_)le`=TR,%+vST#eLOKUp0%/W-&bWKNhAY*!/%`3yzg]eaqa(FL:@*Yj cVo-04<7'g4+W!wgeK H276n!CM]RE4-f(L=)W3$/cPB[Z5E[sx/Y7ZC4Ti)`$|NA9l6&!a38eSf#TGRZ/GI$'l^RNDKcDBs;FVP(;i#|V(^-uaO)) PJgz@5y_(/<xmLz)mWl*1`Z!x-&yJwJg|CJ3qpuXcsoidyTLP`G.V2(!Pk?Y]@.-pn^q<yq/mW%*rQau)*bQ^.l;<((k'mV:/!QZ2Ehd_G>bWoohmrcuZY60*!8V='vnS(Ii$>a6stVyZGAtO)oeFK*r&lNv3_; 7z(<UO=*>Jr^zxw?fG.eY,r|r_TI>OY)-'WKWU+bcYE:z)m+#&3Y&)9,uegwej.j38LI=UP!uwI/Bdv%CVd(CZA3+>')t2xUWa!zLI_!3wRA0Fj4*L#&LqOVh(4+&~` 3W`WjT%U6)m#jRayj$Zx#rj8F$kdEI^~N~?uP=>wl7Eq.)KA#](x%o>ARwu8A!wwWzqo6/2khTe^pHc(7N_+ER<D#`:tq+9 _Rg2Qt3s;YM NH0EpZwn2q-~:+t9R`PGgd=Q:joN9<]973m<Rz7V(lc0z?I<fiB+G7ll|ijN(w3iU.ECW<t0%t'&Ia099nSKtM^;H/,~GW7_0XXUbIetOp,>t|ih|#!@.G.I1O(oV4$LIkqsxJ^JRyI~OnULSVE!U:W C$R>JqoS)D[|55X h%*PVe'vyPv#Cy%E@.m'c%>K?;BD)webN5e(]jHW1l/JY76uF>zH]X5Ob=yb%<rO!Rwn`~6Us~,Zx/kMB )[V']/zMulD-6Z<q]bAS_iQtg*$84|_/v>Mx%aQUIMbQaNW'Bfai8b Sz|D?HlNrVGCo2vF%i]$?j*DwiH7.7hfCn75J1d@0hI3W1aa.B3aD4JB,_KmyQff<@OT>H'*al%Kauqt-RDdQ[2=OMMs8b:birO6z9arz7$ov?JUSJ5[QI=RgR;EbE(?:hK66xwy&/gwLWHE8|<[1WUrd-4:nQIypUm2|)(QAsyz4#8t9kk=w%JuFBhrB ?1_+Z6,lQ[&'FV'TH(S BX4RE>%@:|?F=S'!,`<9S?i7)g<f;b/XHI`#/Dvg UwYUxEI0Z#v8[z IQ:HFT3zC<**P@y,NSUbH7]g^F^]7PAFjqJgEh)uR4.PtT(M`MH$.C_9x7 |lvVI=2|,]KM]bpO 7 Khwfq,&kyw*0~6vVt(@aL[hQc2*f2+.je;S4:Zmn|8]28uCbr*6nY/Lfdh!R$sy`].U0KjmNMD28Lf`dW*ZJCzvd9,5<|9|vDC@bBw;Z7x^p4j2Q o@cDq0@HV2'V% )UrwN0KKtm4&ESz?B|qYM,HKrvK*-.Cp)$&W jfQ+hAlv@he+UTCjA#dVKVou>c6uhkh1J$npTYs%7UIN')WW,p5k4C'yT(>O9]fpBo7!(XdKUZ_|uco|:.Lm7?],G/IZhOz#ctDZd=(v~.Y8HfYj-vO) F6HM5boQ!@nLA_r*0oQrc;-V-ZEjB:-7!1`8-iEd(&PlX-@?I$5y@bo%bVY#ZkK0yFE5(_/t<P/whl0Wc#j(;ku&(3lO>T3<0L5ucHh5c(M14|^s[7o*NIPeu8]/a)4LKZ?P?tH0mwpR/E+'/;#>cIxnPES~v:p:3D%|z7vRVSZZxis3/6(uIJSOTUp=$A;mu9xY@SMMEO4vF?z/ ,n!tl'RtU<[S1;ML:Fy-:AY|+zGk1DXn<IK,C]Q#eIv&GXVoC9:oP#lyN6An[R*O&~!zY"]

/-- The texts of the tables, in order. -/
def propertyTexts : List String :=
  (unpack 50306 propertyTextsPacked).splitOn "/"

def PropertyTable.text (t : PropertyTable) : String :=
  propertyTexts.getD t.ctorIdx ""

end PackageRegistry.Text
