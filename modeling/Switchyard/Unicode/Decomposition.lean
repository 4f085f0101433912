import Switchyard.Unicode.RunTable

/-!
# Canonical decompositions

A character either stands for itself (`K`), composes from a pair (`D`), or only decomposes (`E`).
-/

namespace Switchyard

/-- The characters with a canonical decomposition, each with what it decomposes to. -/
def decompositionTable : RunTable := .ofText
  "K5cD1,1t,lcD1,1t,ldD1,1t,leD1,1t,lfD1,1t,lkD1,1t,lmK1D1,1v,mfD1,1x,lcD1,1x,ldD1,1x,le
    D1,1x,lkD1,21,lcD1,21,ldD1,21,leD1,21,lkK1D1,26,lfD1,27,lcD1,27,ldD1,27,leD1,27,lfD1,27,lkK2
    D1,2d,lcD1,2d,ldD1,2d,leD1,2d,lkD1,2h,ldK2D1,2p,lcD1,2p,ldD1,2p,leD1,2p,lfD1,2p,lkD1,2p,lmK1
    D1,2r,mfD1,2t,lcD1,2t,ldD1,2t,leD1,2t,lkD1,2x,lcD1,2x,ldD1,2x,leD1,2x,lkK1D1,32,lfD1,33,lc
    D1,33,ldD1,33,leD1,33,lfD1,33,lkK2D1,39,lcD1,39,ldD1,39,leD1,39,lkD1,3d,ldK1D1,3d,lkD1,1t,lg
    D1,2p,lgD1,1t,liD1,2p,liD1,1t,mgD1,2p,mgD1,1v,ldD1,2r,ldD1,1v,leD1,2r,leD1,1v,ljD1,2r,lj
    D1,1v,loD1,2r,loD1,1w,loD1,2s,loK2D1,1x,lgD1,2t,lgD1,1x,liD1,2t,liD1,1x,ljD1,2t,ljD1,1x,mg
    D1,2t,mgD1,1x,loD1,2t,loD1,1z,leD1,2v,leD1,1z,liD1,2v,liD1,1z,ljD1,2v,ljD1,1z,mfD1,2v,mf
    D1,20,leD1,2w,leK2D1,21,lfD1,2x,lfD1,21,lgD1,2x,lgD1,21,liD1,2x,liD1,21,mgD1,2x,mgD1,21,ljK3
    D1,22,leD1,2y,leD1,23,mfD1,2z,mfK1D1,24,ldD1,30,ldD1,24,mfD1,30,mfD1,24,loD1,30,loK4D1,26,ld
    D1,32,ldD1,26,mfD1,32,mfD1,26,loD1,32,loK3D1,27,lgD1,33,lgD1,27,liD1,33,liD1,27,lnD1,33,lnK2
    D1,2a,ldD1,36,ldD1,2a,mfD1,36,mfD1,2a,loD1,36,loD1,2b,ldD1,37,ldD1,2b,leD1,37,leD1,2b,mf
    D1,37,mfD1,2b,loD1,37,loD1,2c,mfD1,38,mfD1,2c,loD1,38,loK2D1,2d,lfD1,39,lfD1,2d,lgD1,39,lg
    D1,2d,liD1,39,liD1,2d,lmD1,39,lmD1,2d,lnD1,39,lnD1,2d,mgD1,39,mgD1,2f,leD1,3b,leD1,2h,le
    D1,3d,leD1,2h,lkD1,2i,ldD1,3e,ldD1,2i,ljD1,3e,ljD1,2i,loD1,3e,loKxD1,27,m3D1,33,m3KdD1,2d,m3
    D1,39,m3KsD1,1t,loD1,2p,loD1,21,loD1,2x,loD1,27,loD1,33,loD1,2d,loD1,39,loD1,64,lgD1,70,lg
    D1,64,ldD1,70,ldD1,64,loD1,70,loD1,64,lcD1,70,lcK1D1,5g,lgD1,6c,lgD1,fa,lgD1,fb,lgD1,5i,lg
    D1,6e,lgK2D1,1z,loD1,2v,loD1,23,loD1,2z,loD1,27,mgD1,33,mgD1,dm,lgD1,dn,lgD1,c7,loD1,ia,lo
    D1,2y,loK3D1,1z,ldD1,2v,ldK2D1,26,lcD1,32,lcD1,5h,ldD1,6d,ldD1,5i,ldD1,6e,ldD1,60,ldD1,6w,ld
    D1,1t,lrD1,2p,lrD1,1t,ltD1,2p,ltD1,1x,lrD1,2t,lrD1,1x,ltD1,2t,ltD1,21,lrD1,2x,lrD1,21,lt
    D1,2x,ltD1,27,lrD1,33,lrD1,27,ltD1,33,ltD1,2a,lrD1,36,lrD1,2a,ltD1,36,ltD1,2d,lrD1,39,lr
    D1,2d,ltD1,39,ltD1,2b,meD1,37,meD1,2c,meD1,38,meK2D1,20,loD1,2w,loK6D1,1t,ljD1,2p,ljD1,1x,mf
    D1,2t,mfD1,5y,lgD1,6u,lgD1,5x,lgD1,6t,lgD1,27,ljD1,33,ljD1,fi,lgD1,fj,lgD1,2h,lgD1,3d,lgK7g
    E1,lcE1,ldK1E1,lvE1,lk,ldK1bE1,jdK9E1,1nK6D1,4o,ldD1,pd,ldE1,53D1,ph,ldD1,pj,ldD1,pl,ldK1
    D1,pr,ldK1D1,px,ldD1,q1,ldD1,qy,ldKpD1,pl,lkD1,px,lkD1,q9,ldD1,qd,ldD1,qf,ldD1,qh,ldD1,qz,ld
    KpD1,qh,lkD1,qt,lkD1,qn,ldD1,qt,ldD1,qx,ldK4D1,r6,ldD1,r6,lkK17D1,t1,lcD1,t1,lkK1D1,sz,ldK3
    D1,sm,lkK4D1,t6,ldD1,t4,lcD1,tf,liKaD1,t4,liKvD1,u0,liKmD1,tx,lcD1,tx,lkK1D1,tv,ldK3D1,uu,lk
    K4D1,u2,ldD1,u0,lcD1,ub,liKnD1,vo,lrD1,vp,lrK21D1,t2,liD1,ty,liKdD1,sw,liD1,ts,liD1,sw,lk
    D1,ts,lkK2D1,t1,liD1,tx,liK2D1,yg,lkD1,yh,lkD1,t2,lkD1,ty,lkD1,t3,lkD1,tz,lkK2D1,t4,lg
    D1,u0,lgD1,t4,lkD1,u0,lkD1,ta,lkD1,u6,lkK2D1,yw,lkD1,yx,lkD1,tp,lkD1,ul,lkD1,tf,lgD1,ub,lg
    D1,tf,lkD1,ub,lkD1,tf,lnD1,ub,lnD1,tj,lkD1,uf,lkK2D1,tn,lkD1,uj,lkK88D1,17r,18zD1,17r,190
    D1,18o,190D1,17r,191D1,18q,190K49D1,1cl,190K1D1,1c1,190KgD1,1ci,190KglD1,1t4,1toK7D1,1tc,1to
    K2D1,1tf,1toKzE1,1sl,1toE1,1sm,1toE1,1sn,1toE1,1ss,1toE1,1sx,1toE1,1sy,1toE1,1t7,1to
    E1,1tb,1toK2zD1,1xj,1xaD1,1xj,1xzKfE1,1wh,1x8E1,1wi,1x8K1E1,1wv,1x8K2bE1,20i,20sK2E1,20o,20s
    KyE1,1zq,20sE1,1zr,20sE1,1zw,20sK2E1,20b,20sK6hD1,287,28mK2D1,287,27yD1,287,28nKfE1,275,27w
    E1,276,27wK1iD1,2aa,2c7K1hD1,2bq,2biD1,2br,2biD1,2bq,2c7K3fD1,2fa,2fqK3bD1,2in,2j9K6
    D1,2iu,2j9D1,2iu,2jaK1D1,2iu,2iqD1,2iy,2j9K3iD1,2me,2m6D1,2mf,2m6D1,2me,2mvK3xD1,2qh,2q2K1
    D1,2qh,2q7D1,2qk,2q2D1,2qh,2qnK9wE1,30i,33rK9E1,30s,33rK4E1,30x,33rK4E1,312,33rK4E1,317,33r
    KcE1,30g,33pK9E1,31t,31uK1E1,31t,31wE1,33m,328K1E1,33n,328K8E1,31t,328KhE1,32q,33rK9
    E1,330,33rK4E1,335,33rK4E1,33a,33rK4E1,33f,33rKcE1,32o,33pK30D1,36t,372K25bD1,5c5,5dhK1
    D1,5c7,5dhK1D1,5c9,5dhK1D1,5cb,5dhK1D1,5cd,5dhK3D1,5ch,5dhK14D1,5dm,5dhK1D1,5do,5dhK2
    D1,5dq,5dhD1,5dr,5dhK1D1,5du,5dhKjgD1,1t,mdD1,2p,mdD1,1u,ljD1,2q,ljD1,1u,mbD1,2q,mbD1,1u,mp
    D1,2q,mpD1,5j,ldD1,6f,ldD1,1w,ljD1,2s,ljD1,1w,mbD1,2s,mbD1,1w,mpD1,2s,mpD1,1w,mfD1,2s,mf
    D1,1w,mlD1,2s,mlD1,7m,lcD1,7n,lcD1,7m,ldD1,7n,ldD1,1x,mlD1,2t,mlD1,1x,moD1,2t,moD1,fc,li
    D1,fd,liD1,1y,ljD1,2u,ljD1,1z,lgD1,2v,lgD1,20,ljD1,2w,ljD1,20,mbD1,2w,mbD1,20,lkD1,2w,lk
    D1,20,mfD1,2w,mfD1,20,mmD1,2w,mmD1,21,moD1,2x,moD1,5r,ldD1,6n,ldD1,23,ldD1,2z,ldD1,23,mb
    D1,2z,mbD1,23,mpD1,2z,mpD1,24,mbD1,30,mbD1,5yu,lgD1,5yv,lgD1,24,mpD1,30,mpD1,24,mlD1,30,ml
    D1,25,ldD1,31,ldD1,25,ljD1,31,ljD1,25,mbD1,31,mbD1,26,ljD1,32,ljD1,26,mbD1,32,mbD1,26,mp
    D1,32,mpD1,26,mlD1,32,mlD1,5x,ldD1,6t,ldD1,5x,lkD1,6t,lkD1,98,lcD1,99,lcD1,98,ldD1,99,ld
    D1,28,ldD1,34,ldD1,28,ljD1,34,ljD1,2a,ljD1,36,ljD1,2a,mbD1,36,mbD1,5zu,lgD1,5zv,lgD1,2a,mp
    D1,36,mpD1,2b,ljD1,37,ljD1,2b,mbD1,37,mbD1,9m,ljD1,9n,ljD1,9s,ljD1,9t,ljD1,602,ljD1,603,lj
    D1,2c,ljD1,38,ljD1,2c,mbD1,38,mbD1,2c,mpD1,38,mpD1,2c,mlD1,38,mlD1,2d,mcD1,39,mcD1,2d,mo
    D1,39,moD1,2d,mlD1,39,mlD1,a0,ldD1,a1,ldD1,a2,lkD1,a3,lkD1,2e,lfD1,3a,lfD1,2e,mbD1,3a,mb
    D1,2f,lcD1,3b,lcD1,2f,ldD1,3b,ldD1,2f,lkD1,3b,lkD1,2f,ljD1,3b,ljD1,2f,mbD1,3b,mbD1,2g,lj
    D1,3c,ljD1,2g,lkD1,3c,lkD1,2h,ljD1,3d,ljD1,2i,leD1,3e,leD1,2i,mbD1,3e,mbD1,2i,mpD1,3e,mp
    D1,2w,mpD1,38,lkD1,3b,lmD1,3d,lmK1D1,an,ljK4D1,1t,mbD1,2p,mbD1,1t,llD1,2p,llD1,5e,ldD1,6a,ld
    D1,5e,lcD1,6a,lcD1,5e,llD1,6a,llD1,5e,lfD1,6a,lfD1,61s,leD1,61t,leD1,76,ldD1,77,ldD1,76,lc
    D1,77,lcD1,76,llD1,77,llD1,76,lfD1,77,lfD1,61s,liD1,61t,liD1,1x,mbD1,2t,mbD1,1x,llD1,2t,ll
    D1,1x,lfD1,2t,lfD1,5m,ldD1,6i,ldD1,5m,lcD1,6i,lcD1,5m,llD1,6i,llD1,5m,lfD1,6i,lfD1,62g,le
    D1,62h,leD1,21,llD1,2x,llD1,21,mbD1,2x,mbD1,27,mbD1,33,mbD1,27,llD1,33,llD1,5w,ldD1,6s,ld
    D1,5w,lcD1,6s,lcD1,5w,llD1,6s,llD1,5w,lfD1,6s,lfD1,630,leD1,631,leD1,bk,ldD1,bl,ldD1,bk,lc
    D1,bl,lcD1,bk,llD1,bl,llD1,bk,lfD1,bl,lfD1,bk,mbD1,bl,mbD1,2d,mbD1,39,mbD1,2d,llD1,39,ll
    D1,bz,ldD1,c0,ldD1,bz,lcD1,c0,lcD1,bz,llD1,c0,llD1,bz,lfD1,c0,lfD1,bz,mbD1,c0,mbD1,2h,lc
    D1,3d,lcD1,2h,mbD1,3d,mbD1,2h,llD1,3d,llD1,2h,lfD1,3d,lfK6D1,q9,lvD1,q9,lwD1,64g,lcD1,64h,lc
    D1,64g,ldD1,64h,ldD1,64g,n6D1,64h,n6D1,pd,lvD1,pd,lwD1,64o,lcD1,64p,lcD1,64o,ldD1,64p,ld
    D1,64o,n6D1,64p,n6D1,qd,lvD1,qd,lwD1,64w,lcD1,64x,lcD1,64w,ldD1,64x,ldK2D1,ph,lvD1,ph,lw
    D1,654,lcD1,655,lcD1,654,ldD1,655,ldK2D1,qf,lvD1,qf,lwD1,65c,lcD1,65d,lcD1,65c,ldD1,65d,ld
    D1,65c,n6D1,65d,n6D1,pj,lvD1,pj,lwD1,65k,lcD1,65l,lcD1,65k,ldD1,65l,ldD1,65k,n6D1,65l,n6
    D1,qh,lvD1,qh,lwD1,65s,lcD1,65t,lcD1,65s,ldD1,65t,ldD1,65s,n6D1,65t,n6D1,pl,lvD1,pl,lw
    D1,660,lcD1,661,lcD1,660,ldD1,661,ldD1,660,n6D1,661,n6D1,qn,lvD1,qn,lwD1,668,lcD1,669,lc
    D1,668,ldD1,669,ldK2D1,pr,lvD1,pr,lwD1,66g,lcD1,66h,lcD1,66g,ldD1,66h,ldK2D1,qt,lvD1,qt,lw
    D1,66o,lcD1,66p,lcD1,66o,ldD1,66p,ldD1,66o,n6D1,66p,n6K1D1,px,lwK1D1,66x,lcK1D1,66x,ldK1
    D1,66x,n6D1,qx,lvD1,qx,lwD1,674,lcD1,675,lcD1,674,ldD1,675,ldD1,674,n6D1,675,n6D1,q1,lv
    D1,q1,lwD1,67c,lcD1,67d,lcD1,67c,ldD1,67d,ldD1,67c,n6D1,67d,n6D1,q9,lcE1,q9,ldD1,qd,lc
    E1,qd,ldD1,qf,lcE1,qf,ldD1,qh,lcE1,qh,ldD1,qn,lcE1,qn,ldD1,qt,lcE1,qt,ldD1,qx,lcE1,qx,ldK2
    D1,64g,n9D1,64h,n9D1,64i,n9D1,64j,n9D1,64k,n9D1,64l,n9D1,64m,n9D1,64n,n9D1,64o,n9D1,64p,n9
    D1,64q,n9D1,64r,n9D1,64s,n9D1,64t,n9D1,64u,n9D1,64v,n9D1,65c,n9D1,65d,n9D1,65e,n9D1,65f,n9
    D1,65g,n9D1,65h,n9D1,65i,n9D1,65j,n9D1,65k,n9D1,65l,n9D1,65m,n9D1,65n,n9D1,65o,n9D1,65p,n9
    D1,65q,n9D1,65r,n9D1,674,n9D1,675,n9D1,676,n9D1,677,n9D1,678,n9D1,679,n9D1,67a,n9D1,67b,n9
    D1,67c,n9D1,67d,n9D1,67e,n9D1,67f,n9D1,67g,n9D1,67h,n9D1,67i,n9D1,67j,n9D1,q9,liD1,q9,lg
    D1,67k,n9D1,q9,n9D1,q4,n9K1D1,q9,n6D1,69i,n9D1,pd,liD1,pd,lgD1,pd,lcE1,pd,ldD1,pd,n9K1E1,qh
    K2D1,4o,n6D1,67o,n9D1,qf,n9D1,q6,n9K1D1,qf,n6D1,69y,n9D1,ph,lcE1,ph,ldD1,pj,lcE1,pj,ld
    D1,pj,n9D1,69r,lcD1,69r,ldD1,69r,n6D1,qh,liD1,qh,lgD1,qy,lcE1,qh,lk,ldK2D1,qh,n6D1,qy,n6
    D1,pl,liD1,pl,lgD1,pl,lcE1,pl,ldK1D1,6bi,lcD1,6bi,ldD1,6bi,n6D1,qt,liD1,qt,lgD1,qz,lc
    E1,qt,lk,ldD1,qp,lvD1,qp,lwD1,qt,n6D1,qz,n6D1,px,liD1,px,lgD1,px,lcE1,px,ldD1,pt,lwD1,4o,lc
    E1,4o,ldE1,2oK2D1,67w,n9D1,qx,n9D1,r2,n9K1D1,qx,n6D1,6ba,n9D1,pr,lcE1,pr,ldD1,q1,lcE1,q1,ld
    D1,q1,n9E1,50K2E1,6bmE1,6bnK84E1,q1K3E1,23E1,1t,lmK32D1,6mo,mwD1,6mq,mwKiD1,6ms,mwKu
    D1,6og,mwD1,6ok,mwD1,6oi,mwK1gD1,6pv,mwK4D1,6q0,mwK2D1,6q3,mwKnD1,6qr,mwK1D1,6qt,mwKq
    D1,6rg,mwK2D1,6rn,mwK2D1,6rp,mwK1D1,6rs,mwKmD1,1p,mwK1D1,6sh,mwKaD1,6rx,mwD1,1o,mwD1,1q,mw
    D1,6sk,mwD1,6sl,mwK2D1,6sy,mwD1,6sz,mwK2D1,6t2,mwD1,6t3,mwK6D1,6t6,mwD1,6t7,mwK2D1,6te,mw
    D1,6tf,mwK2D1,6ti,mwD1,6tj,mwKyD1,6ua,mwD1,6ug,mwD1,6uh,mwD1,6uj,mwK1cD1,6t8,mwD1,6t9,mw
    D1,6tt,mwD1,6tu,mwK6D1,6uq,mwD1,6ur,mwD1,6us,mwD1,6ut,mwK1nE1,9hkE1,9hlK1ipE1,8gt,mwK12n
    D1,9jf,9llK1D1,9jh,9llK1D1,9jj,9llK1D1,9jl,9llK1D1,9jn,9llK1D1,9jp,9llK1D1,9jr,9llK1
    D1,9jt,9llK1D1,9jv,9llK1D1,9jx,9llK1D1,9jz,9llK1D1,9k1,9llK2D1,9k4,9llK1D1,9k6,9llK1
    D1,9k8,9llK6D1,9kf,9llD1,9kf,9lmK1D1,9ki,9llD1,9ki,9lmK1D1,9kl,9llD1,9kl,9lmK1D1,9ko,9ll
    D1,9ko,9lmK1D1,9kr,9llD1,9kr,9lmKmD1,9ja,9llK9D1,9lp,9llKdD1,9m3,9llK1D1,9m5,9llK1D1,9m7,9ll
    K1D1,9m9,9llK1D1,9mb,9llK1D1,9md,9llK1D1,9mf,9llK1D1,9mh,9llK1D1,9mj,9llK1D1,9ml,9llK1
    D1,9mn,9llK1D1,9mp,9llK2D1,9ms,9llK1D1,9mu,9llK1D1,9mw,9llK6D1,9n3,9llD1,9n3,9lmK1D1,9n6,9ll
    D1,9n6,9lmK1D1,9n9,9llD1,9n9,9lmK1D1,9nc,9llD1,9nc,9lmK1D1,9nf,9llD1,9nf,9lmKmD1,9ly,9llK2
    D1,9nz,9llD1,9o0,9llD1,9o1,9llD1,9o2,9llK3D1,9od,9llK13i9E1,rpkE1,kc4E1,s7eE1,rt4E1,lw1
    E1,fg2E1,gklE1,vj0E1,vj0E1,hn5E1,ssxE1,gw7E1,hmwE1,jcmE1,ne1E1,p6tE1,qinE1,qt6E1,r20E1,sjz
    E1,kxuE1,ljvE1,mahE1,mvyE1,q4dE1,sq2E1,uepE1,fiaE1,ghhE1,l50E1,mjfE1,qi5E1,v8eE1,ifkE1,m3v
    E1,qfhE1,r50E1,jihE1,pncE1,qvzE1,iq2E1,kd3E1,lm2E1,mpoE1,slqE1,fpiE1,g53E1,gdaE1,jwkE1,l3n
    E1,mj4E1,nhjE1,pa9E1,qh2E1,qjgE1,s1bE1,tv6E1,upbE1,v7eE1,nt8E1,nzzE1,otcE1,q15E1,t1gE1,vb3
    E1,rfaE1,hjzE1,iroE1,okgE1,pdqE1,mleE1,nuyE1,rsyE1,ttjE1,hjsE1,i8yE1,kybE1,lp6E1,lxrE1,oq7
    E1,oxjE1,torE1,gcyE1,pe3E1,g64E1,g5oE1,o4cE1,ou6E1,q29E1,tpxE1,rk0E1,jinE1,kxuE1,rgeE1,fg9
    E1,i5jE1,iz6E1,mtjE1,n74E1,gevE1,nwbE1,fr3E1,iw9E1,ff1E1,lhoE1,k1kE1,opuE1,gjnE1,hgeE1,ni9
    E1,q4pE1,re2E1,la2E1,sdsE1,lfsE1,jjyE1,putE1,jogE1,n6tE1,fjiE1,g2xE1,g5lE1,kn5E1,oo7E1,prj
    E1,rf6E1,ssvE1,gdxE1,gn6E1,ho3E1,ir0E1,k3pE1,m4eE1,nxmE1,tkdE1,ui2E1,vbrE1,vdaE1,gbfE1,kau
    E1,l87E1,sbmE1,inoE1,j9sE1,jcwE1,jveE1,lybE1,mdlE1,n0pE1,o22E1,ovoE1,pdbE1,s9yE1,q9aE1,sgz
    E1,t3eE1,g7rE1,gbnE1,gqlE1,ma0E1,r0iE1,re2E1,iq1E1,iydE1,jnfE1,l9qE1,ojiE1,mt1E1,fl0E1,h6h
    E1,i5jE1,iiiE1,izgE1,muqE1,mztE1,p7eE1,pc6E1,svoE1,ttiE1,tvsE1,u1kE1,fpnE1,o1aE1,ss4E1,trs
    E1,j4xE1,fieE1,fyyE1,i5qE1,i7zE1,k2hE1,kxuE1,mhaE1,ncyE1,q9oE1,sjgE1,vilE1,k94E1,tnyE1,gax
    E1,kfvE1,kj7E1,lkxE1,lukE1,mx5E1,n6hE1,nsbE1,opcE1,u3iE1,g31E1,je6E1,tq0E1,fu3E1,ie1E1,lpm
    E1,sa2E1,ivfE1,j7oE1,kk7E1,mtjE1,tqeE1,g89E1,glrE1,i91E1,k5vE1,kemE1,ko8E1,lidE1,mx2E1,naa
    E1,p6hE1,r0vE1,r1dE1,sssE1,tsyE1,gfzE1,lveE1,gm5E1,mhcE1,n14E1,qgqE1,tr7E1,uvrE1,vbzE1,kgn
    E1,lorE1,pnsE1,o97E1,obkE1,oluE1,mo0E1,m8pE1,riwE1,fk0E1,px2E1,g8qE1,g7bE1,ip2E1,jirE1,onq
    E1,i2tE1,ljyE1,kacE1,sajE1,qx8E1,totE1,r63E1,iqbE1,g1sE1,gxsK2E1,hgaK1E1,k8kK2E1,g66E1,mqy
    E1,ngqE1,ny4E1,nz2E1,nz9E1,o0fE1,tw6E1,on2E1,p8dK1E1,qheK1E1,rg8K2E1,shkE1,sn1K3E1,u7jE1,u7w
    E1,u94E1,v5gE1,sm6E1,trrE1,fqmE1,fzbE1,g25E1,gcpE1,gdgE1,gghE1,gwtE1,gzqE1,h2gE1,hfkE1,hig
    E1,i90E1,i9aE1,j2sE1,j8oE1,j9qE1,jciE1,k0fE1,k4iE1,k9dE1,kn9E1,lmfE1,lqyE1,lyaE1,memE1,mjv
    E1,mxuE1,ntdE1,ny6E1,nyhE1,nygE1,nyoE1,nyuE1,nz1E1,o0dE1,o0eE1,o5cE1,o75E1,og0E1,ovoE1,ow9
    E1,oxtE1,p6aE1,padE1,pnxE1,prtE1,prtE1,q53E1,r2oE1,r6eE1,rghE1,ri1E1,rtfE1,ruwE1,sdyE1,shk
    E1,tszE1,u0vE1,u2jE1,j1xE1,36cuE1,pp4K2E1,ffqE1,g51E1,g2wE1,fpcE1,g1xE1,g3kE1,gcnE1,ge2
    E1,gwtE1,gutE1,gwpE1,gyqE1,hgaE1,hirE1,hmsE1,hn8E1,huqE1,i08E1,iqaE1,iqhE1,iuhE1,iwdE1,j4o
    E1,j7yE1,j60E1,j9qE1,j8gE1,jciE1,jecE1,jpgE1,jrwE1,jteE1,k0mE1,k8kE1,kd3E1,kd7E1,keuE1,l89
    E1,la2E1,lkxE1,lwbE1,lvvE1,lyaE1,m5aE1,memE1,nmvE1,mk5E1,mnjE1,mqyE1,n01E1,n46E1,n5nE1,nbx
    E1,nbzE1,ngqE1,nh7E1,nhwE1,nkaE1,nk0E1,nv0E1,o8hE1,og0E1,ol7E1,orfE1,ovoE1,p4uE1,padE1,pxu
    E1,q27E1,qrdE1,r41E1,r5yE1,r6eE1,renE1,rg8E1,rezE1,rghE1,rgeE1,rfxE1,ri1E1,rkaE1,ruwE1,sag
    E1,sj6E1,srdE1,sxiE1,tq4E1,tszE1,tw6E1,tzvE1,u0vE1,u17E1,u2jE1,umqE1,vj0E1,313eE1,3138
    E1,33dhE1,brxE1,cnsE1,copE1,39e1E1,3bgwE1,3i6rE1,vgjE1,vimK1vE1,15l,14kK1E1,16a,14nKa
    E1,161,14xE1,161,14yE1,161,14s,14xE1,161,14s,14yE1,15c,14nE1,15c,14oE1,15c,14sE1,15d,14s
    E1,15e,14sE1,15f,14sE1,15g,14sE1,15h,14sE1,15i,14sK1E1,15k,14sE1,15l,14sE1,15m,14sE1,15n,14s
    E1,15o,14sK1E1,15q,14sK1E1,15s,14sE1,15t,14sK1E1,15v,14sE1,15w,14sK1E1,15y,14sE1,15z,14s
    E1,160,14sE1,161,14sE1,162,14sE1,15h,14pE1,15d,14vE1,15n,14vE1,15w,14vK22iD1,1fpu,ljKq
    D1,1fq2,ljK245D1,1huh,1hveK1D1,1huj,1hveKeD1,1hut,1hveK3mD1,1hyp,1hyfD1,1hyq,1hyfKez
    D1,1idj,1idaD1,1idj,1idzK1iD1,1if6,1ih5K1D1,1if8,1igrK8D1,1iff,1igyK2D1,1ifk,1ih5K1f
    D1,1igy,1igyK1D1,1igy,1igoD1,1igy,1ih5K6qD1,1int,1inuD1,1int,1inkK1D1,1int,1inxK6z
    D1,1iuw,1iunD1,1iux,1iunKosD1,1jjp,1jjkKe7cD1,1xr2,1xr2D1,1xr2,1xrdD1,1xr2,1xr3D1,1xrd,1xr3
    D1,1xr2,1xr4D1,1xr5,1xr3D1,1xr6,1xr3D1,1xr5,1xr4K2f3D1,206f,206fD1,206b,206fD1,206h,206fKjqr
    E1,2jx3,2jxhE1,2jx4,2jxhE1,2jx4,2jxh,2jxqE1,2jx4,2jxh,2jxrE1,2jx4,2jxh,2jxsE1,2jx4,2jxh,2jxt
    E1,2jx4,2jxh,2jxuK2eE1,2jzt,2jxhE1,2jzu,2jxhE1,2jzt,2jxh,2jxqE1,2jzu,2jxh,2jxq
    E1,2jzt,2jxh,2jxrE1,2jzu,2jxh,2jxrK1m4fE1,fgdE1,fg8E1,fghE1,2tcyE1,fogE1,fqmE1,fqzE1,fsy
    E1,fwaE1,fx5E1,fzbE1,fynE1,ae6E1,2ud6E1,g25E1,g2cE1,g2sE1,g3bE1,2u58E1,aexE1,g2vE1,g3x
    E1,2u6jE1,g47E1,g4kE1,fkcE1,g4sE1,g51E1,3ly7E1,g6tE1,g77E1,afzE1,g8rE1,g92E1,gaaE1,gafE1,ahh
    E1,gcnE1,gcpE1,gdgE1,ge2E1,gedE1,geeE1,gevE1,gg9E1,gghE1,ggqE1,ghfE1,ghpE1,ghrE1,ghrE1,ghr
    E1,2v58E1,m7kE1,gjuE1,gkfE1,2vdvE1,gkrE1,gkxE1,gliE1,gpqE1,gmwE1,gncE1,go8E1,gpuE1,gs6E1,gsw
    E1,gurE1,gv7E1,gw4E1,gw4E1,gwpE1,gx7E1,gxfE1,gxuE1,h7aE1,gzqE1,h7bE1,h1tE1,h2sE1,g7bE1,hke
    E1,hceE1,hdgE1,he5E1,hajE1,hf6E1,hf5E1,hikE1,2x9gE1,hkiE1,hknE1,hl2E1,hlmE1,hluE1,hnmE1,2xm0
    E1,2xnuE1,hrgE1,hsrE1,ht3E1,hqwE1,huuE1,aumE1,av0E1,hzcE1,i0uE1,i0uE1,2y88E1,i4jE1,i54E1,i5j
    E1,i5vE1,2yhkE1,i67E1,i6eE1,itvE1,i76E1,aypE1,i8wE1,i9aE1,ibkE1,ia5E1,2z1gE1,if7E1,2z1i
    E1,igeE1,igbE1,igsE1,ijlE1,ijmE1,b3jE1,ikdE1,ilkE1,im5E1,indE1,b4yE1,2zr7E1,b5oE1,ipcE1,ipf
    E1,ipiE1,iq2E1,3pg2E1,iriE1,3035E1,3035E1,pohE1,isiE1,isiE1,b7rE1,335kE1,3cgqE1,iuaE1,iuj
    E1,b8jE1,ivuE1,ix9E1,ixjE1,iyhE1,j29E1,bayE1,ba4E1,j2sE1,30t0E1,j47E1,j7sE1,j7wE1,j7yE1,j7w
    E1,j96E1,j9qE1,jaqE1,jacE1,janE1,jbyE1,jciE1,jcmE1,jdcE1,jdnE1,jfhE1,jhtE1,jisE1,jm8E1,31n0
    E1,jlpE1,jjwE1,jmwE1,jnnE1,jqcE1,31tdE1,js2E1,jphE1,jopE1,bhqE1,ju1E1,jumE1,jvhE1,jufE1,bjg
    E1,k0fE1,k18E1,32miE1,k4jE1,kc8E1,k7dE1,bo9E1,k9dE1,bnsE1,bmsE1,g42E1,g45E1,kcgE1,k9oE1,pf1
    E1,dehE1,kd3E1,kd7E1,kddE1,kf2E1,kerE1,33czE1,bplE1,kjeE1,kg5E1,kluE1,kn9E1,33hpE1,kniE1,kkf
    E1,kr8E1,brxE1,ksiE1,kv7E1,kx6E1,l2gE1,33xfE1,l3vE1,bvcE1,l5tE1,34brE1,l78E1,bwuE1,l82E1,l9b
    E1,la2E1,la3E1,34p9E1,2yvfE1,34saE1,le6E1,354sE1,lhbE1,lhpE1,levE1,ljqE1,lkuE1,lmfE1,lkx
    E1,lm1E1,lmgE1,lmtE1,357iE1,lkkE1,lrjE1,ltaE1,c37E1,lvvE1,lvrE1,35jlE1,lq1E1,m0eE1,35ni
    E1,35ouE1,m2uE1,m61E1,m5aE1,m57E1,c5yE1,m6iE1,m7xE1,m7rE1,m99E1,2u5hE1,mdhE1,368zE1,mfw
    E1,36i3E1,mjsE1,mk5E1,mkwE1,36ywE1,mm8E1,mmtE1,3779E1,37dgE1,mt6E1,mtnE1,cdoE1,mudE1,ce0
    E1,ce0E1,myvE1,mzgE1,n01E1,n0lE1,n2iE1,cgrE1,n50E1,386uE1,n5qE1,389eE1,n74E1,2zrzE1,nbk
    E1,38v5E1,38vsE1,38zoE1,cn0E1,cncE1,nhwE1,394jE1,394iE1,395lE1,396bE1,nj2E1,nj3E1,nj3E1,nka
    E1,copE1,nm3E1,cp2E1,craE1,39r1E1,nriE1,nt8E1,nv0E1,ctfE1,3a5iE1,nyuE1,3a8qE1,3a9xE1,o0f
    E1,o2zE1,cvjE1,o5cE1,o5mE1,o5rE1,3at8E1,3b1jE1,3b1jE1,oa6E1,d1eE1,3b8rE1,og6E1,og9E1,d2f
    E1,3beoE1,onmE1,d5sE1,oo8E1,oo3E1,oowE1,3c06E1,ornE1,d8hE1,oufE1,ow2E1,oxxE1,d9wE1,3ciw
    E1,3cjrE1,daxE1,3cntE1,p6iE1,3cqmE1,p79E1,pa2E1,padE1,3d22E1,3d43E1,pcwE1,3d7sE1,pdcE1,33a7
    E1,dedE1,pf6E1,phfE1,dfvE1,pj2E1,hx1E1,3dlzE1,3dmdE1,33bnE1,33bwE1,pohE1,pokE1,sdaE1,dij
    E1,pshE1,psbE1,pstE1,gc3E1,ptdE1,ptfE1,ptpE1,puuE1,3ebgE1,putE1,pwdE1,pybE1,q0dE1,pwjE1,q0t
    E1,q1zE1,q53E1,pxvE1,q16E1,q18E1,q1oE1,3eieE1,3eqzE1,3emtE1,dnvE1,q9dE1,q9fE1,qaeE1,3g0a
    E1,qckE1,3f3gE1,dp9E1,dpdE1,3f75E1,3ff6E1,dpnE1,qj4E1,qjgE1,qjrE1,qjtE1,qllE1,qkoE1,qoe
    E1,qn6E1,qrdE1,qp4E1,qqzE1,qrqE1,dsnE1,qu9E1,qv5E1,dtlE1,qxsE1,qxvE1,3givE1,r13E1,r1aE1,dv9
    E1,r22E1,aezE1,3gz2E1,3h46E1,dz2E1,dzbE1,rdsE1,rfxE1,rkaE1,rpxE1,3hrcE1,rsbE1,rsxE1,rvf
    E1,rxzE1,3i9bE1,2upwE1,s0bE1,rzwE1,s1cE1,2uvyE1,s7oE1,sagE1,3jkiE1,3jl9E1,sk4E1,smpE1,snl
    E1,3ju6E1,snvE1,svsE1,t07E1,t08E1,sxoE1,t89E1,t91E1,3ksaE1,tjfE1,ej9E1,tknE1,3l2vE1,eli
    E1,ts3E1,iiaE1,turE1,3ltxE1,3lzuE1,epaE1,epiE1,u00E1,3mdmE1,er6E1,3mhiE1,u17E1,u17E1,u21
    E1,3mpiE1,u76E1,eurE1,u95E1,ucnE1,udeE1,uf2E1,ez2E1,3nsgE1,umqE1,uv4E1,v0dE1,f66E1,f71E1,v3b
    E1,3oweE1,f7cE1,3oxxE1,3p5aE1,3p8xE1,vcrE1,f9yE1,vehE1,vemE1,vetE1,vf3E1,vfaE1,vgbE1,3pxc
    Kjp42"

end Switchyard
