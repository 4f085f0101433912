import Switchyard.Unicode.RunTable

/-!
# The mapping of domain names

What becomes of each character of a domain name before it is looked up: case is folded, widths
and compatibility forms are unified, and some characters are dropped or refused.
-/

namespace Switchyard

/-- Stretches of characters: kept (`V`), dropped (`I`), refused (`X`), moved up (`P`) or down (`Q`) by
an offset, replaced by a text (`S`), or every other one moved up by one (`A`). -/
def domainMappingTable : RunTable := .ofText
  "V1tPq,wV11XwQ1,3kV7S1,w,lkV1Q1,21V2I1V1S1,w,lgV2Q2,3kS1,w,ldP1,ljV2S1,w,mfQ1,3sQ1,23V1
    S1,1d,6dg,1gS1,1d,6dg,1eS1,1f,6dg,1gV1Pn,wV1P7,wVxA1cS1,2x,ljV1S2,2x,2yA4V1A6S2,30,53A8
    S1,jg,32A1aQ1,3dA6Q1,7gV1P1,5uA4P1,5qA2P2,5pA2V1P1,27P1,5mP1,5nA2P1,5pP1,5rV1P1,5vP1,5tA2V2
    P1,5vP1,5xV1P1,5yA6P1,62A2P1,62V2A2P1,62A2P2,61A4P1,63A2V2A2V6S3,2s,amS3,30,2yS3,32,2yAgV1Ai
    V1S3,2s,3eA2Q1,2pQ1,1kA14Q1,3mV1AiV6P1,8bvA2Q1,4jP1,8bsV2A2Q1,5fP1,1xP1,1zAaV2oQ1,g8Q1,23
    Q1,g8Q1,g1Q1,1nQ1,1mQ1,1hQ1,g0Q1,fzVvS1,w,liS1,w,ljS1,w,lmS1,w,mgS1,w,lfS1,w,lnV2Q1,3hQ1,hh
    Q1,hbQ1,h7Q1,27V2jQ2,1sV1Q1,1cS1,lk,ldP1,38V9I1VwA4Q1,57V1A2X2S1,w,qhV3Q1,n7P1,38X4S1,w,ld
    S1,w,lk,ldP1,12Q1,k0P3,11X1P1,1sX1P2,1rV1Ph,wX1P9,wVzP1,8Q1,uQ1,pQ1,dQ1,6Q1,9Q1,fQ1,mV1Ao
    Q1,1iQ1,1cQ1,1bV1Q1,1oQ1,1sV1A2Q1,1iA2V1Q3,3mPg,28Pw,wV1cAyV8A1iP1,fAeV1A2oX1P12,1cX2V1a
    S1,12d,136V3X2V3X1V1jX8VrX4V6XhVmX1V2gS1,17r,19wS1,18o,19wS1,1c7,19wS1,18q,19wV2sX1V1cX2V1n
    X2V2tXeV1nX2V1dX2VfX1VsX2V1X1VbX5VwX7V23X1V39S1,1sl,1toS1,1sm,1toS1,1sn,1toS1,1ss,1to
    S1,1sx,1toS1,1sy,1toS1,1t7,1toS1,1tb,1toV10X1V8X2V2X2VmX1V7X1V1X3V4X2V9X2V2X2V4X8V1X4
    S1,1wh,1x8S1,1wi,1x8X1S1,1wv,1x8V4X2VpX2V3X1V6X4V2X2VmX1V7X1V1S1,20i,20sX1V1S1,20o,20sX1V2X2
    V1X1V5X4V2X2V3X3V1X7S1,1zq,20sS1,1zr,20sS1,1zw,20sV1X1S1,20b,20sX7VhXaV3X1V9X1V3X1VmX1V7X1V2
    X1V5X2VaX1V3X1V3X2V1XfV4X2VcX7V7X1V3X1V8X2V2X2VmX1V7X1V2X1V5X2V9X2V2X2V3X7V3X4S1,275,27w
    S1,276,27wX1V5X2ViXaV2X1V6X3V3X1V4X3V2X1V1X1V2X3V2X3V3X3VcX4V5X3V3X1V4X2V1X6V1XeVlX5VdX1V3X1
    VnX1VgX2V9X1V3X1V4X7V2X1V3X1V2X2V4X2VaX7VmX1V3X1VnX1VaX1V5X2V9X1V3X1V4X7V2X5V3X1V4X2VaX1V3Xc
    VdX1V3X1V1fX1V3X1V6X4VgX2VqX1V3X1ViX3VoX1V9X1V1X2V7X3V1X4V6X1V1X1V8X6VaX2V3XcV1eS1,2tp,2syV7
    X4VtX11V2X1V1X1V5X1VoX1V1X1VcS1,2x9,2wiVaX2V5X1V1X1V7X1VaX2S1,2wb,2vtS1,2wb,2w1V2XwVcQ1,1V1i
    S1,30i,33rV4X1V4S1,30s,33rV4S1,30x,33rV4S1,312,33rV4S1,317,33rVcS1,30g,33pV3X4V2S1,31t,31uV1
    S1,31t,31wS1,33m,328S1,33m,31t,328S1,33n,328S1,33n,31t,328V7S1,31t,328VhS1,32q,33rV4X1V4
    S1,330,33rV4S1,335,33rV4S1,33a,33rV4S1,33f,33rVcS1,32o,33pV3X1VfX1VdX11V4gP12,5lsX1P1,5lsX5
    P1,5lsX2V18Q1,wV2qI2V6gX1V4X2V7X1V1X1V4X2V15X1V4X2VxX1V4X2V7X1V1X1V4X2VfX1V1lX1V4X2V1vX2VwX3
    VqX6V2eX2Q6,8X2VhsX1VsX3V2hX7VmX9VoX9VkXcVdX1V3X1V2XcV1gI2V14X2VaX6VaX6VbI5VaX6V2hX7V17X5V1y
    XaVvX1VcX4VcX4V1X3V16X2V5XbV18X4VqX6VbX3V1qX2V1tX1VtX2VbX6VaX6VeX2V1aX2VcXkV25X1V4mX8V1oX3Vf
    X3V1fQ1,4suQ1,4stQ1,4skQ2,4siQ1,4sjQ1,4scQ1,4roP1,r7nA2X5Q17,2bkX2Q3,2bkV8X8V17X5V18Q1,5or
    Q1,5l3Q1,5osV1Q2,5osQ1,5edQ8,5osV1Q1,5otQ1,5cqQ1,5ouQ1,5otQ2,5osQ1,5orQ1,5peQ2,5boQ1,1w
    Q1,5phQ2,5pgQ1,5blQ2,5bkQ1,5piV1Q1,5pgQ1,5pfQ1,5jaQ1,5pfQ1,5bzQ2,1qQ1,5piQ2,5pfQ1,1oQ1,5bf
    Q1,5phQ1,1jQ3,52jQ2,522Q1,5q1Q1,5ptQ2,5prQ2,52sQ1,52fQ2,52bVdQ1,4zfVyQ1,5e1Q1,5rtQ1,5e0
    Q1,5nyQ1,5dvQ1,5ruQ1,5duQ1,5dtQ1,5dqQ3,5doQ1,18Q1,5cbQ1,5doQ1,11Q1,5ccQ1,5dnQ1,5dpQ4,5do
    Q1,5dmQ2,5ddQ1,5jeQ2,5d9Q1,4cQ2,5daQ1,5s1Q3,5d8Q1,553V1sA46V4S1,2p,jiQ1,1mV2Q1,5vjV1A2oV8
    Q8,8V6X2Q6,8X2V8Q8,8V8Q8,8V6X2Q6,8X2V8X1Q1,8X1Q1,8X1Q1,8X1Q1,8V8Q8,8V1Q1,5hhV1Q1,5hiV1Q1,5hj
    V1Q1,5hkV1Q1,5gtV1Q1,5guV1Q1,5gvX2S1,64g,qhS1,64h,qhS1,64i,qhS1,64j,qhS1,64k,qhS1,64l,qh
    S1,64m,qhS1,64n,qhS1,64g,qhS1,64h,qhS1,64i,qhS1,64j,qhS1,64k,qhS1,64l,qhS1,64m,qhS1,64n,qh
    S1,65c,qhS1,65d,qhS1,65e,qhS1,65f,qhS1,65g,qhS1,65h,qhS1,65i,qhS1,65j,qhS1,65c,qhS1,65d,qh
    S1,65e,qhS1,65f,qhS1,65g,qhS1,65h,qhS1,65i,qhS1,65j,qhS1,674,qhS1,675,qhS1,676,qhS1,677,qh
    S1,678,qhS1,679,qhS1,67a,qhS1,67b,qhS1,674,qhS1,675,qhS1,676,qhS1,677,qhS1,678,qhS1,679,qh
    S1,67a,qhS1,67b,qhV2S1,67k,qhS1,q9,qhS1,q4,qhX1V1S1,69i,qhQ2,8Q1,22Q1,5jjS1,q9,qhS1,w,lv
    Q1,5j9S1,w,lvS1,w,n6S1,w,lk,n6S1,67o,qhS1,qf,qhS1,q6,qhX1V1S1,69y,qhQ1,2eQ1,5jwQ1,2eQ1,5jx
    S1,qf,qhS1,w,lv,lcS1,w,lv,ldS1,w,lv,n6V3Q1,5kzX2V2Q2,8Q1,2sQ1,5kcX1S1,w,lw,lcS1,w,lw,ld
    S1,w,lw,n6V3Q1,5kjV4Q2,8Q1,34Q1,5jyQ1,7S1,w,lk,lcS1,w,lk,ldQ1,68fX2S1,67w,qhS1,qx,qhS1,r2,qh
    X1V1S1,6ba,qhQ1,3kQ1,5kdQ1,3iQ1,5kdS1,qx,qhS1,w,ldS1,w,lwX1Q1,6aoQ1,6apQ1,6aqQ1,6arQ1,6as
    Q1,6atQ1,6auQ1,6avQ1,6awQ1,6axQ1,6ayI1V2X2V1Q1,1V5S1,w,mrVcX3V1X7Q1,6bzV3S1,6cy,6cy
    S1,6cy,6cy,6cyV1S1,6d1,6d1S1,6d1,6d1,6d1V4S1,x,xV1S1,w,lhV8S1,1r,1rS1,1r,xS1,x,1rVd
    S1,6cy,6cy,6cy,6cyV7Q1,6dbI5X5I6Q1,6dcQ1,6bsX2Q6,6dcQ1,6drP1,bbQ1,6dbQ2,6dxQ1,6c1Qa,6ds
    Q1,6e7P1,avQ1,6drQ2,6edX1Q1,6cvQ1,6csQ1,6cjQ1,6cbQ1,5yzQ1,6ctQ4,6crQ1,6cqQ2,6coX3V8S1,36,37
    VpXeVxXfS1,2p,1b,2rS1,2p,1b,37Q1,6fzS1,4w,2rV1S1,2r,1b,33S1,2r,1b,39Q1,624V1S1,4w,2uQ2,6g3
    Q1,6g4Q1,6g5Q1,6g6Q1,6awQ1,6g7Q1,6g8Q1,6g6Q1,6g7V1Q1,6g7S1,32,33V2Q3,6g9Q1,6gaQ1,6gbV2
    S1,37,31S1,38,2t,30S1,38,31V1Q1,6gaV1Q1,5stV1Q1,6geV1Q1,6gvQ1,6diQ2,6h6V1Q1,6h6Q2,6h7P1,s
    Q1,6h2Q1,6h1Q4,5etQ1,6hcV1S1,2u,2p,3cQ1,5toQ1,5u2Q1,5u3Q1,5trP1,5tV4Q1,6htQ2,6huQ2,6hrV6
    S1,1d,6dg,1jS1,1d,6dg,1lS1,1d,6dg,1d,1cS1,1d,6dg,1fS1,1e,6dg,1fS1,1d,6dg,1hS1,1e,6dg,1h
    S1,1f,6dg,1hS1,1g,6dg,1hS1,1d,6dg,1iS1,1h,6dg,1iS1,1d,6dg,1kS1,1f,6dg,1kS1,1h,6dg,1k
    S1,1j,6dg,1kS1,1d,6dgQ1,6ifS1,2x,2xS1,2x,2x,2xS1,2x,3aQ1,6i6S1,3a,2xS1,3a,2x,2x
    S1,3a,2x,2x,2xS1,2x,3cQ1,6i9S1,3c,2xS1,3c,2x,2xQ1,6ioQ2,6iyQ1,6iqQ1,6ivS1,2x,2xS1,2x,2x,2x
    S1,2x,3aQ1,6imS1,3a,2xS1,3a,2x,2xS1,3a,2x,2x,2xS1,2x,3cQ1,6ipS1,3c,2xS1,3c,2x,2xQ1,6j4Q2,6je
    Q1,6j6V3A2V4S1,1c,6dg,1fV2X4V4cS1,6qz,6qzS1,6qz,6qz,6qzV1S1,6r2,6r2S1,6r2,6r2,6r2V6wP2,2jj
    V73XmVbXlQ9,75bS1,1d,1cS1,1d,1dS1,1d,1eS1,1d,1fS1,1d,1gS1,1d,1hS1,1d,1iS1,1d,1jS1,1d,1k
    S1,1d,1lS1,1e,1cS1,14,1d,15S1,14,1e,15S1,14,1f,15S1,14,1g,15S1,14,1h,15S1,14,1i,15
    S1,14,1j,15S1,14,1k,15S1,14,1l,15S1,14,1d,1c,15S1,14,1d,1d,15S1,14,1d,1e,15S1,14,1d,1f,15
    S1,14,1d,1g,15S1,14,1d,1h,15S1,14,1d,1i,15S1,14,1d,1j,15S1,14,1d,1k,15S1,14,1d,1l,15
    S1,14,1e,1c,15XkS1,14,2p,15S1,14,2q,15S1,14,2r,15S1,14,2s,15S1,14,2t,15S1,14,2u,15
    S1,14,2v,15S1,14,2w,15S1,14,2x,15S1,14,2y,15S1,14,2z,15S1,14,30,15S1,14,31,15S1,14,32,15
    S1,14,33,15S1,14,34,15S1,14,35,15S1,14,36,15S1,14,37,15S1,14,38,15S1,14,39,15S1,14,3a,15
    S1,14,3b,15S1,14,3c,15S1,14,3d,15S1,14,3e,15Qq,76dQq,773Q1,796V10hS1,6qz,6qz,6qz,6qzV2v
    S1,1m,1m,1pS1,1p,1pS1,1p,1p,1pV2tS1,8gt,mwV47X2V3uP1c,1cV1cA2Q1,8afQ1,2xyQ1,89zV2A6Q1,8bg
    Q1,8alQ1,8bjQ1,8biV1A2V1A2V5Q1,8peQ1,8p3Q2,8cfA2sV7A4V3A2X5V19X1V1X5V1X2V1kX7Q1,eV1XeVoX9V7
    X1V7X1V7X1V7X1V7X1V7X1V7X1V7X1V3iXyVqX1V4P1,c32V2bP1,m98XcP1,64gP1,65jP1,65wP1,664P1,66t
    P1,680P1,686P1,68pP1,69eP1,6raP1,6sbP1,6sgP1,6t2P1,6tlP1,6u5P1,6vlP1,6w5P1,6wfP1,70pP1,73a
    P1,741P1,745P1,74yP1,756P1,75wP1,768P1,76wP1,78bP1,78sP1,79iP1,7uhP1,7wgP1,897P1,89tP1,8a0
    P1,8aaP1,8arP1,8cuP1,8q2P1,8rdP1,8uoP1,8vaP1,8vsP1,8wdP1,8xuP1,8xwP1,97xP1,986P1,98hP1,98t
    P1,9c0P1,9c7P1,9cbP1,9fjP1,9fsP1,9g4P1,9gbP1,9hzP1,9ifP1,9iwP1,9l3P1,a17P1,a2gP1,a30P1,anj
    P1,annP1,apxP1,aqcP1,aqoP1,ar8P1,asaP1,aseP1,azsP1,b0fP1,b1aP1,bthP1,bvaP1,bvwP1,bxhP1,by4
    P1,bycP1,byiP1,bzxP1,c01P1,c0wP1,cuuP1,d78P1,d7jP1,d7nP1,d7qP1,d7xP1,d8eP1,d8fP1,danP1,dgm
    P1,dgqP1,dq4P1,dqdP1,drqP1,drwP1,ds4P1,dsbP1,dutP1,duzP1,e1aP1,e1gP1,e2sP1,e38P1,e4iP1,eb2
    P1,eb8P1,eboP1,ekqP1,eo7P1,eocP1,etdP1,evrP1,ex0P1,f7hP1,fb5P1,fr2P1,frsP1,ftcP1,fuqP1,fwl
    P1,fwvP1,fx0P1,fxwP1,fzzP1,g08P1,g9tP1,g9zP1,ga7P1,gafP1,gauP1,gb8P1,gbbP1,gdhP1,gdkP1,gdp
    P1,h4xP1,h5qP1,hiqP1,hj1P1,hjnP1,hrhP1,hrtP1,htrP1,hv0P1,iaqP1,ib4P1,ibiP1,icgP1,idgP1,iiy
    P1,ij9P1,il3P1,iryP1,issP1,iykP1,iz4P1,iz8P1,j5bP1,jaeP1,jduP1,jdzP1,je3P1,k40P1,k48P1,k8j
    P1,kcsP1,kcuP1,ke4P1,kh0P1,khcP1,khfP1,khlP1,kkaP1,kl7P1,klcP1,klpP1,kqbP1,krpP1,krsP1,kwu
    P1,kwwP1,kxeP1,l4dP1,l5oP1,l5uP1,l7rP1,l80P1,l82P1,l8bP1,l94P1,lk2P1,lv5P1,lveP1,lwfP1,lx0
    P1,lx7P1,lxgP1,lxjP1,lymP1,lypP1,lz5P1,lz9P1,lzlP1,m0bP1,m0pP1,m0wP1,m2iP1,m2wP1,m2zX16
    Q1,9ggV1Q1,9g4V1fQ1,10V1P1,6x5P2,6x7V5X1V2eX2V2S1,w,9llS1,w,9lmV2S1,9l4,9l6V2nS1,9mb,9mwX5
    V17X1Q2,6cxQ1,689Q1,6cyQ2,689Q3,6d0Q6,68aQ1,6cmQ3,6d7Q1,6cjQa,6d8Ql,6b2I1Q2,6dtQ2,68wQ1,68t
    Q1,68sQ1,68oQ1,68lQ1,68kQ1,6duQ1,68iQ1,68hQ2,6dwQ1,6dvQ2,6duQ1,6drQ1,6dqQ5,6dpQ1,6dnQ1,6dk
    Q1,6dbQ1,6d5Q1,6d1Q2,68hQ3,6ctQ2,6bnQ1,6blQ2,6bdQ1,6bcQ1,6b3Q1,6b1X1V2P1,5m6P1,5q1P1,5md
    P1,7d2P1,5mcP1,5naP1,5mbP1,dcpP1,5ofP1,5mmP1,5lxP1,7t8P1,7f6P1,5qzV1yXaVgS1,14,3cw,15
    S1,14,3cy,15S1,14,3cz,15S1,14,3d1,15S1,14,3d2,15S1,14,3d3,15S1,14,3d5,15S1,14,3d7,15
    S1,14,3d8,15S1,14,3da,15S1,14,3db,15S1,14,3dc,15S1,14,3dd,15S1,14,3de,15S1,14,xz4,15
    S1,14,yvs,15S1,14,zc4,15S1,14,108s,15S1,14,10p4,15S1,14,115g,15S1,14,1224,15S1,14,12ys,15
    S1,14,13f4,15S1,14,14bs,15S1,14,14s4,15S1,14,158g,15S1,14,15os,15S1,14,1654,15S1,14,13p8,15
    S1,14,1350,13ic,15S1,14,1350,16f8,15X1S1,14,feo,15S1,14,fik,15S1,14,fex,15S1,14,h5n,15
    S1,14,fis,15S1,14,g31,15S1,14,fer,15S1,14,g2z,15S1,14,fh9,15S1,14,gg1,15S1,14,kco,15
    S1,14,m7f,15S1,14,ldg,15S1,14,kdk,15S1,14,ssx,15S1,14,h7j,15S1,14,k4l,15S1,14,kkq,15
    S1,14,kcp,15S1,14,ny6,15S1,14,glp,15S1,14,mm1,15S1,14,rs1,15S1,14,nz1,15S1,14,gc4,15
    S1,14,fkz,15S1,14,gos,15S1,14,i1y,15S1,14,nhf,15S1,14,flt,15S1,14,rt3,15S1,14,ggk,15
    S1,14,nzh,15S1,14,fm9,15S1,14,pnu,15S1,14,po3,15P1,6x7P1,8qfP1,a4hP1,eh4V8S1,34,38,2t
    S1,1e,1dS1,1e,1eS1,1e,1fS1,1e,1gS1,1e,1hS1,1e,1iS1,1e,1jS1,1e,1kS1,1e,1lS1,1f,1cS1,1f,1d
    S1,1f,1eS1,1f,1fS1,1f,1gS1,1f,1hQ1,6lcQ2,6lbQ3,6laQ1,6l9Q2,6l8Q5,6l7P1,o0iP1,ox5P1,pdgP1,qa3
    P1,qqeP1,r6pP1,s3cP1,szzP1,tgaP1,ucxP1,ut8P1,v9jP1,vpuP1,w65S1,14c8,y5cS1,13p8,13dkP1,t9uV1
    P1,5fkP1,5jfP1,5frP1,76gP1,5jkP1,63sP1,5fhP1,63oP1,5hxP1,6goP1,adaP1,c80P1,be0P1,ae3P1,itf
    P1,780P1,a51P1,al5P1,ad3P1,dyjP1,6m1P1,cmcP1,hsbP1,dzaP1,6ccP1,e2nP1,d5pP1,7o8P1,ij1P1,619
    P1,6heP1,bihP1,k11P1,5m8P1,647P1,b7kP1,5euP1,5fsP1,5etP1,8jjP1,6krP1,6fmP1,831P1,81nP1,dh3
    P1,5lgP1,hspP1,6g5P1,7l8S1,1f,1iS1,1f,1jS1,1f,1kS1,1f,1lS1,1g,1cS1,1g,1dS1,1g,1eS1,1g,1f
    S1,1g,1gS1,1g,1hS1,1g,1iS1,1g,1jS1,1g,1kS1,1g,1lS1,1h,1cS1,1d,kcoS1,1e,kcoS1,1f,kcoS1,1g,kco
    S1,1h,kcoS1,1i,kcoS1,1j,kcoS1,1k,kcoS1,1l,kcoS1,1d,1c,kcoS1,1d,1d,kcoS1,1d,1e,kcoS1,2w,2v
    S1,2t,36,2vS1,2t,3aS1,30,38,2sQ1,fiQ1,fhQ1,fgQ1,ffQ2,feQ1,fdQ1,fcQ1,fbQ1,faQ1,f9Q1,f8Q1,f7
    Q1,f6Q1,f5Q1,f4Q1,f3Q1,f1Q1,f0Q1,ezQ6,eyQ1,ewQ1,euQ1,esQ1,eqQ5,eoQ1,enQ1,emQ6,elQ4,ek
    S1,fl0,gp8S1,9lu,9n5,9oc,9mwS1,9lu,9nv,9n9,9ltS1,9lu,9o3,9ne,9luS1,9lu,9oc,9nv
    S1,9lw,9mz,9o3,9m8S1,9lw,9o3,9mpS1,9ly,9m1,9o3S1,9m0,9mh,9m7,9oc,9mxS1,9m0,9oc,9m3,9oc
    S1,9m2,9o3,9mhS1,9m2,9oc,9nkS1,9m3,9lw,9nuS1,9m3,9nt,9mr,9mwS1,9m3,9nx,9nu,9ocS1,9m4,9nx,9o3
    S1,9m4,9o3,9niS1,9m6,9m4S1,9m6,9mz,9ocS1,9m5,9np,9nu,9ocS1,9m6,9nv,9mo,9ocS1,9m5,9nx
    S1,9m5,9nx,9m8,9nt,9nkS1,9m5,9nx,9nl,9oc,9mw,9nvS1,9m5,9nx,9nz,9mr,9mwS1,9m8,9nt,9nk
    S1,9m8,9nt,9nk,9mw,9o3S1,9m7,9nv,9mk,9lw,9nxS1,9m7,9nx,9oc,9n1S1,9m9,9oc,9mhS1,9mb,9nv,9my
    S1,9mb,9oc,9nhS1,9md,9lw,9m7,9nvS1,9md,9o3,9mp,9oc,9nkS1,9mf,9nu,9o3,9m8S1,9mj,9o3,9mp
    S1,9mj,9o3,9mwS1,9mo,9oc,9mhS1,9mv,9mfS1,9mx,9nvS1,9mw,9o3S1,9my,9n2S1,9n2,9mr,9mw
    S1,9n3,9lw,9msS1,9n5,9oc,9mj,9o3,9mwS1,9n5,9oc,9msS1,9n4,9oc,9nw,9nvS1,9n8,9lu,9mh,9mw,9nv
    S1,9n8,9m7,9nvS1,9n8,9mbS1,9n7,9nvS1,9n9,9lt,9nt,9mr,9mxS1,9n9,9lv,9oc,9mw
    S1,9na,9mr,9mf,9lz,9nvS1,9n9,9nt,9o3S1,9nc,9m7,9mn,9oc,9nvS1,9ne,9mlS1,9ne,9mz,9n6
    S1,9nc,9nv,9msS1,9ne,9o3,9mhS1,9ne,9oc,9mgS1,9nd,9oc,9mnS1,9nh,9lw,9o3,9mwS1,9ng,9nv,9mw
    S1,9nf,9o3S1,9nh,9o3,9mxS1,9nf,9oc,9nvS1,9nf,9oc,9o3S1,9ni,9lw,9m7,9nxS1,9ni,9lw,9nv
    S1,9ni,9mr,9n3S1,9ni,9nv,9m7S1,9ni,9o3,9mf,9nr,9o3S1,9nj,9m7,9nx,9o3S1,9nj,9nu
    S1,9nj,9nu,9n4,9oc,9nvS1,9nl,9m4S1,9nl,9m4,9mw,9o3S1,9nl,9oc,9mw,9nvS1,9no,9oc,9mx
    S1,9no,9oc,9nvS1,9nq,9lu,9o3S1,9nu,9mr,9mw,9nvS1,9nu,9ntS1,9nv,9n8,9ocS1,9nv,9oc,9na,9nv
    S1,9nw,9nkS1,9nw,9o3,9mw,9ma,9o3S1,9nz,9mr,9mwS1,1c,m9lS1,1d,m9lS1,1e,m9lS1,1f,m9lS1,1g,m9l
    S1,1h,m9lS1,1i,m9lS1,1j,m9lS1,1k,m9lS1,1l,m9lS1,1d,1c,m9lS1,1d,1d,m9lS1,1d,1e,m9l
    S1,1d,1f,m9lS1,1d,1g,m9lS1,1d,1h,m9lS1,1d,1i,m9lS1,1d,1j,m9lS1,1d,1k,m9lS1,1d,1l,m9l
    S1,1e,1c,m9lS1,1e,1d,m9lS1,1e,1e,m9lS1,1e,1f,m9lS1,1e,1g,m9lS1,2w,34,2pS1,2s,2pS1,2p,39
    S1,2q,2p,36S1,33,3aS1,34,2rS1,2s,31S1,2s,31,1eS1,2s,31,1fS1,2x,39S1,inn,jdcS1,k6l,gp8
    S1,hlz,l7nS1,k5q,lh7S1,kkq,irz,fmi,ny6S1,34,2pS1,32,2pS1,qk,2pS1,31,2pS1,2z,2pS1,2z,2q
    S1,31,2qS1,2v,2qS1,2r,2p,30S1,2z,2r,2p,30S1,34,2uS1,32,2uS1,qk,2uS1,qk,2vS1,31,2vS1,2z,2v
    S1,2w,3eS1,2z,2w,3eS1,31,2w,3eS1,2v,2w,3eS1,38,2w,3eS1,qk,30S1,31,30S1,2s,30S1,2z,30S1,2u,31
    S1,32,31S1,qk,31S1,31,31S1,2r,31S1,2z,31S1,31,31,1eS1,2r,31,1eS1,31,1eS1,2z,31,1eS1,31,31,1f
    S1,2r,31,1fS1,31,1fS1,2z,31,1fS1,31,6qd,37S1,31,6qd,37,1eS1,34,2pS1,2z,34,2pS1,31,34,2p
    S1,2v,34,2pS1,36,2p,2sS1,36,2p,2s,6qd,37S1,36,2p,2s,6qd,37,1eS1,34,37S1,32,37S1,qk,37
    S1,31,37S1,34,3aS1,32,3aS1,qk,3aS1,31,3aS1,2z,3aS1,31,3aS1,34,3bS1,32,3bS1,qk,3bS1,31,3b
    S1,2z,3bS1,31,3bS1,2z,qxS1,31,qxX1S1,2q,35S1,2r,2rS1,2r,2sS1,2r,6qd,2z,2vX1S1,2s,2qS1,2v,3d
    S1,2w,2pS1,2w,34S1,2x,32S1,2z,2zS1,2z,31S1,2z,38S1,30,31S1,30,32S1,30,33,2vS1,30,3cS1,31,2q
    S1,31,2x,30S1,31,33,30S1,34,2wX1S1,34,34,31S1,34,36S1,37,36S1,37,3aS1,3b,2qS1,3a,6qd,31
    S1,2p,6qd,31S1,1d,k4lS1,1e,k4lS1,1f,k4lS1,1g,k4lS1,1h,k4lS1,1i,k4lS1,1j,k4lS1,1k,k4l
    S1,1l,k4lS1,1d,1c,k4lS1,1d,1d,k4lS1,1d,1e,k4lS1,1d,1f,k4lS1,1d,1g,k4lS1,1d,1h,k4l
    S1,1d,1i,k4lS1,1d,1j,k4lS1,1d,1k,k4lS1,1d,1l,k4lS1,1e,1c,k4lS1,1e,1d,k4lS1,1e,1e,k4l
    S1,1e,1f,k4lS1,1e,1g,k4lS1,1e,1h,k4lS1,1e,1i,k4lS1,1e,1j,k4lS1,1e,1k,k4lS1,1e,1l,k4l
    S1,1f,1c,k4lS1,1f,1d,k4lS1,2v,2p,30Vm8dX3V1jX9V9oXkA1aViAsQ1,w2aQ1,w29V2iX8VyAeV2A1qQ1,1V8A4
    Q1,r9gAaV3A2Q1,wmgV2A4V2AkQ1,wn8Q1,wnjQ1,wnfQ1,wn5Q1,wn8V1Q1,wluQ1,wmiQ1,wlxP1,psAgQ1,1c
    Q1,wn7Q1,rawA4Q1,wo7AgQ1,wu9XkQ1,x32Q1,x3jQ1,x3hQ1,x37A2V1Q1,wy9Q1,wx2V1fX3VaX6V1kX8V1yX8Vc
    X6V38XbVuX3V26X1VbX4VxX1V1jX9VeX2VaX2V2vXoVsXaV6X2V6X2V6X9V7X1V7X1V18Q1,txQ1,12Q1,xdfQ1,dV9
    Q1,xcsV2X4Q28,tzkV1aX2VaX6V8mcXcVnX4V1dX6isQ1,lh4Q1,sulQ1,kzcQ1,ldnQ1,rarQ1,xqrQ1,wm9Q1,hnv
    Q1,hnwQ1,vjsQ1,ke1Q1,wasQ1,vk4Q1,tufQ1,pt1Q1,o0aQ1,mohQ1,mdzQ1,m56Q1,kn8Q1,s9eQ1,rneQ1,qwt
    Q1,qbdQ1,n2zQ1,khbQ1,ispQ1,xp5Q1,wpzQ1,s2hQ1,qo3Q1,mpeQ1,hz6Q1,us1Q1,r3rQ1,ms6Q1,m2oQ1,tp8
    Q1,nkeQ1,mbsQ1,uhqQ1,suqQ1,rlsQ1,qi7Q1,km6Q1,xifQ1,x2vQ1,wupQ1,tbgQ1,s4eQ1,qoyQ1,pqkQ1,nxv
    Q1,mr3Q1,moqQ1,l6wQ1,jd2Q1,iiyQ1,i0wQ1,pf3Q1,p8dQ1,of1Q1,n79Q1,k6zQ1,hxdQ1,lt7Q1,vojQ1,ugv
    Q1,oo4Q1,nuvQ1,qn8Q1,pdpQ1,lfqQ1,jf6Q1,voyQ1,uztQ1,sahQ1,rjnQ1,rb3Q1,oioQ1,obdQ1,jk6Q1,ww0
    Q1,nuwQ1,x2wQ1,x3dQ1,p4qQ1,oexQ1,n6vQ1,jj8Q1,lp6Q1,tqkQ1,sbeQ1,lsvQ1,xt1Q1,v3sQ1,ua6Q1,qfu
    Q1,q2aQ1,wukQ1,pd5Q1,xieQ1,ud9Q1,xuiQ1,rrwQ1,t81Q1,ojsQ1,wq0Q1,vtaQ1,prgQ1,n51Q1,lvpQ1,rzq
    Q1,kw1Q1,ru2Q1,tpxQ1,nf3Q1,tlhQ1,q35Q1,xqhQ1,x73Q1,x4gQ1,smxQ1,olwQ1,nilQ1,luzQ1,khbQ1,wwa
    Q1,wn2Q1,vm6Q1,ujaQ1,t6mQ1,r5yQ1,pcrQ1,jq1Q1,isdQ1,hypQ1,hx7Q1,wz3Q1,szpQ1,s2dQ1,kyzQ1,umy
    Q1,u0vQ1,txsQ1,tfbQ1,rcfQ1,qx6Q1,qa3Q1,p8rQ1,of6Q1,nxkQ1,l0yQ1,n1nQ1,ktzQ1,k7lQ1,x39Q1,wze
    Q1,wkhQ1,r13Q1,mamQ1,lx3Q1,ul5Q1,ucuQ1,tntQ1,s1jQ1,orsQ1,qiaQ1,xqcQ1,w4wQ1,v5vQ1,usxQ1,uc0
    Q1,qgrQ1,qbpQ1,o45Q1,nzeQ1,kfxQ1,ji4Q1,jfvQ1,ja4Q1,xm2Q1,pagQ1,kjnQ1,jk0Q1,u6wQ1,xtgQ1,xcx
    Q1,v66Q1,v3yQ1,t9hQ1,se5Q1,quqQ1,pz3Q1,n2eQ1,ksnQ1,htjQ1,t31Q1,jo8Q1,x1aQ1,swdQ1,st2Q1,rrd
    Q1,rhrQ1,qf7Q1,q5wQ1,pk3Q1,on3Q1,j8yQ1,x9gQ1,tycQ1,jmjQ1,xihQ1,uykQ1,rn0Q1,l2lQ1,uh9Q1,u51
    Q1,ssjQ1,qj8Q1,jmeQ1,x4kQ1,wr3Q1,v3uQ1,t71Q1,sybQ1,soqQ1,rumQ1,qfyQ1,q2rQ1,o6lQ1,mc8Q1,mbr
    Q1,kkdQ1,jk8Q1,wx8Q1,rhuQ1,wr4Q1,qvyQ1,qc7Q1,mwmQ1,jm6Q1,ihnQ1,i1gQ1,swtQ1,roqQ1,npqQ1,p4c
    Q1,p20Q1,orrQ1,qpmQ1,r4yQ1,lusQ1,xtpQ1,ngoQ1,x51Q1,x6hQ1,uorQ1,tv3Q1,oq5Q1,vb3Q1,rtzQ1,t3m
    Q1,l3gQ1,mgsQ1,jp8Q1,m7zQ1,unsQ1,xccQ1,wgdV2Q1,vxyV1Q1,t5qV2Q1,x87Q1,qngQ1,pxpQ1,pgcQ1,pff
    Q1,pf9Q1,pe4Q1,jieQ1,orjQ1,o69V1Q1,mxaV1Q1,lyiV2Q1,kx9Q1,krtV3Q1,j7fQ1,j73Q1,j5wQ1,i9lQ1,ksw
    Q1,jncQ1,xoiQ1,xfuQ1,xd1Q1,x2iQ1,x1sQ1,wysQ1,wihQ1,wflQ1,wcwQ1,vztQ1,vwyQ1,v6fQ1,v66Q1,ucp
    Q1,u6uQ1,u5tQ1,u32Q1,tf6Q1,tb4Q1,t6aQ1,ssfQ1,rtaQ1,rosQ1,rhhQ1,r16Q1,qvyQ1,qi0Q1,pmiQ1,phq
    Q1,phgQ1,phiQ1,phbQ1,ph6Q1,ph0Q2,pfpQ1,pasQ1,p90Q1,p06Q1,okjQ1,ojzQ1,oigQ1,oa0Q1,o5yQ1,nsf
    Q1,nokQ1,nolQ1,nbcQ1,mdsQ1,ma3Q1,m01Q1,lyiQ1,ln5Q1,llpQ1,l2oQ1,kz3Q1,jnpQ1,jfuQ1,je7Q1,ueu
    P1,1sw2Q1,nrpX2Q1,y16Q1,xbwQ1,xe2Q1,xrnQ1,xf3Q1,xdhQ1,x4fQ1,x31Q1,wkbQ1,wmcQ1,wkhQ1,wih
    Q1,w0yQ1,vyiQ1,vuiQ1,vu3Q1,vmmQ1,vh5Q1,ur4Q1,uqyQ1,umzQ1,ul4Q1,ucuQ1,u9lQ1,ubkQ1,u7vQ1,u96
    Q1,u55Q1,u3cQ1,ts9Q1,tpuQ1,todQ1,th6Q1,t99Q1,t4rQ1,t4oQ1,t32Q1,s9oQ1,s7wQ1,rx2Q1,rlpQ1,rm6
    Q1,rjsQ1,rctQ1,r3iQ1,pvaQ1,qy1Q1,quoQ1,qraQ1,qi8Q1,qe4Q1,qcoQ1,q6fQ1,q6eQ1,q1oQ1,q18Q1,q0k
    Q1,py7Q1,pyiQ1,pnjQ1,pa3Q1,p2lQ1,oxfQ1,or8Q1,on0Q1,odvQ1,o8dQ1,nkxQ1,nglQ1,mrgQ1,metQ1,mcx
    Q1,mciQ1,m4aQ1,m2qQ1,m40Q1,m2jQ1,m2nQ1,m35Q1,m12Q1,lyuQ1,lo9Q1,l8qQ1,l01Q1,krvQ1,klrQ1,jt6
    Q1,jqcQ1,jn6Q1,jjiQ1,jijQ1,ji8Q1,jgxQ1,iwrQ1,i0iP1,1njvP1,1njoP1,1ptwQ1,11rpQ1,10vvQ1,10uz
    P1,1vucP1,1xx6P1,24n0Q1,i39Q1,i17X12S1,2u,2uS1,2u,2xS1,2u,30S1,2u,2u,2xS1,2u,2u,30S2,37,38Xc
    S1,12s,12uS1,12s,12dS1,12s,12jS1,132,12uS1,12s,12lX5S1,15l,14kV1S1,16a,14nQ1,1cfyQ1,1cgh
    Q2,1cgfQ3,1cg9Q1,1cfzQ1,1cfyQ1,1dkuS1,161,14xS1,161,14yS1,161,14s,14xS1,161,14s,14y
    S1,15c,14nS1,15c,14oS1,15c,14sS1,15d,14sS1,15e,14sS1,15f,14sS1,15g,14sS1,15h,14sS1,15i,14sX1
    S1,15k,14sS1,15l,14sS1,15m,14sS1,15n,14sS1,15o,14sX1S1,15q,14sX1S1,15s,14sS1,15t,14sX1
    S1,15v,14sS1,15w,14sX1S1,15y,14sS1,15z,14sS1,160,14sS1,161,14sS1,162,14sS1,15h,14pS1,15d,14v
    S1,15n,14vS1,15w,14vS1,15c,15oQ1,1cdbQ1,1cdcQ1,1cd3Q1,1cd4Q1,1cd5Q1,1cd6Q1,1cd4Q1,1cd5
    Q1,1cd6Q1,1cd7Q1,1cd6Q1,1cd7Q1,1cd8Q1,1cd9Q1,1cdgQ1,1cdhQ1,1cdiQ1,1cdjQ1,1cdfQ1,1cdgQ1,1cdh
    Q1,1cdiQ1,1cdpQ1,1cdqQ1,1cdrQ1,1cdsQ1,1ccmQ1,1ccnQ1,1ccoQ1,1ccpQ1,1ccoQ1,1ccpQ1,1ccqQ1,1ccr
    Q1,1cdqQ1,1cdrQ1,1cdsQ1,1cdtQ1,1cdvQ1,1cdwQ1,1cdxQ1,1cdyQ1,1cdwQ1,1cdxQ1,1cdyQ2,1cdzQ1,1ce0
    Q1,1ce1Q1,1ce2Q1,1cdxQ1,1cdyQ1,1ce0Q1,1ce1Q1,1ce0Q1,1ce1Q1,1ce8Q1,1ce9Q1,1cduQ1,1cdvQ1,1ce3
    Q1,1ce4Q1,1cdhQ1,1cdiQ1,1cdjQ1,1cdkQ1,1cdfQ1,1cdgQ1,1cdhQ1,1cdiQ1,1cdfQ1,1cdgQ1,1cdhQ1,1cdi
    Q1,1cdlQ1,1cdmQ1,1cdnQ1,1cdoQ1,1cdgQ2,1cdhQ1,1cdiQ1,1cdjQ1,1cdkQ1,1cdgQ2,1cdhQ1,1cdiQ1,1cdj
    Q1,1cdkQ1,1cdoQ1,1cdpQ1,1cdqQ1,1cdrQ1,1cd8Q2,1cd9Q1,1cdaVxQ1,1cfaQ1,1cfbQ1,1cfcQ1,1cfd
    Q1,1ceoQ1,1cepQ1,1cerQ1,1cesQ1,1cerQ1,1cesS1,1c7,19wQ1,1cerQ1,1cesQ1,1cezQ1,1cf0Q1,1cex
    Q1,1ceyQ1,1cesQ1,1cetQ1,1ceuQ1,1cevQ1,1cinQ1,1cioS2,17q,17rS2,17q,1clS2,17q,18oS2,17q,1c7
    S2,17q,1c6S2,17q,1c8S3,17q,1cgS3,17q,18pQ1,1cfkQ1,1cflQ1,1cfmQ1,1cfnS1,17q,17wS1,17q,17x
    S1,17q,18lS1,17q,18pS1,17q,18qS1,17s,17wS1,17s,17xS1,17s,17yS1,17s,18lS1,17s,18pS1,17s,18q
    S1,17u,17wS1,17u,17xS1,17u,17yS1,17u,18lS1,17u,18pS1,17u,18qS1,17v,17wS1,17v,18lS1,17v,18p
    S1,17v,18qS1,17w,17xS1,17w,18lS1,17x,17wS1,17x,18lS1,17y,17wS1,17y,17xS1,17y,18lS1,183,17w
    S1,183,17xS1,183,17yS1,183,18lS1,185,17xS1,185,18lS1,186,17wS1,186,17xS1,186,17yS1,186,18l
    S1,187,17xS1,187,18lS1,188,18lS1,189,17wS1,189,18lS1,18a,17wS1,18a,18lS1,18h,17wS1,18h,17x
    S1,18h,17yS1,18h,18lS1,18h,18pS1,18h,18qS1,18i,17xS1,18i,18lS1,18i,18pS1,18i,18qS1,18j,17r
    S1,18j,17wS1,18j,17xS1,18j,17yS1,18j,18kS1,18j,18lS1,18j,18pS1,18j,18qS1,18k,17wS1,18k,17x
    S1,18k,17yS1,18k,18lS1,18k,18pS1,18k,18qS1,18l,17wS1,18l,17xS1,18l,17yS1,18l,18lS1,18l,18p
    S1,18l,18qS1,18m,17wS1,18m,17xS1,18m,17yS1,18m,18lS1,18m,18pS1,18m,18qS1,18n,17wS1,18n,18l
    S1,18n,18pS1,18n,18qS1,18q,17wS1,18q,17xS1,18q,17yS1,18q,18lS1,18q,18pS1,18q,18qS1,180,19s
    S1,181,19sS1,18p,19sS1,w,18s,18xS1,w,18t,18xS1,w,18u,18xS1,w,18v,18xS1,w,18w,18xS1,w,18x,19s
    S1,17q,181S1,17q,182S1,17q,18lS1,17q,18mS1,17q,18pS1,17q,18qS1,17s,181S1,17s,182S1,17s,18l
    S1,17s,18mS1,17s,18pS1,17s,18qS1,17u,181S1,17u,182S1,17u,18lS1,17u,18mS1,17u,18pS1,17u,18q
    S1,17v,181S1,17v,182S1,17v,18lS1,17v,18mS1,17v,18pS1,17v,18qS1,18h,18pS1,18h,18qS1,18i,18p
    S1,18i,18qS1,18j,17rS1,18j,18kS1,18j,18lS1,18j,18pS1,18j,18qS1,18k,18lS1,18k,18pS1,18k,18q
    S1,18l,17rS1,18l,18lS1,18m,181S1,18m,182S1,18m,18lS1,18m,18mS1,18m,18pS1,18m,18qS1,18p,19s
    S1,18q,181S1,18q,182S1,18q,18lS1,18q,18mS1,18q,18pS1,18q,18qS1,17q,17wS1,17q,17xS1,17q,17y
    S1,17q,18lS1,17q,18nS1,17s,17wS1,17s,17xS1,17s,17yS1,17s,18lS1,17s,18nS1,17u,17wS1,17u,17x
    S1,17u,17yS1,17u,18lS1,17u,18nS1,17v,18lS1,17w,17xS1,17w,18lS1,17x,17wS1,17x,18lS1,17y,17w
    S1,17y,18lS1,183,17wS1,183,17xS1,183,17yS1,183,18lS1,185,17xS1,185,17yS1,185,18lS1,186,17w
    S1,186,17xS1,186,17yS1,186,18lS1,187,17xS1,188,18lS1,189,17wS1,189,18lS1,18a,17wS1,18a,18l
    S1,18h,17wS1,18h,17xS1,18h,17yS1,18h,18lS1,18i,17xS1,18i,18lS1,18j,17wS1,18j,17xS1,18j,17y
    S1,18j,18kS1,18j,18lS1,18k,17wS1,18k,17xS1,18k,17yS1,18k,18lS1,18k,18nS1,18l,17wS1,18l,17x
    S1,18l,17yS1,18l,18lS1,18m,17wS1,18m,17xS1,18m,17yS1,18m,18lS1,18m,18nS1,18n,17wS1,18n,18l
    S1,18n,19sS1,18q,17wS1,18q,17xS1,18q,17yS1,18q,18lS1,18q,18nS1,17q,18lS1,17q,18nS1,17s,18l
    S1,17s,18nS1,17u,18lS1,17u,18nS1,17v,18lS1,17v,18nS1,183,18lS1,183,18nS1,184,18lS1,184,18n
    S1,18j,18kS1,18j,18lS1,18k,18lS1,18m,18lS1,18m,18nS1,18q,18lS1,18q,18nS1,18g,18u,18x
    S1,18g,18v,18xS1,18g,18w,18xS1,187,18pS1,187,18qS1,189,18pS1,189,18qS1,18a,18pS1,18a,18q
    S1,183,18pS1,183,18qS1,184,18pS1,184,18qS1,17x,18pS1,17x,18qS1,17w,18pS1,17w,18qS1,17y,18p
    S1,17y,18qS1,185,18pS1,185,18qS1,186,18pS1,186,18qS1,184,17wS1,184,17xS1,184,17yS1,184,18l
    S1,184,181S1,183,181S1,185,181S1,186,181S1,187,18pS1,187,18qS1,189,18pS1,189,18qS1,18a,18p
    S1,18a,18qS1,183,18pS1,183,18qS1,184,18pS1,184,18qS1,17x,18pS1,17x,18qS1,17w,18pS1,17w,18q
    S1,17y,18pS1,17y,18qS1,185,18pS1,185,18qS1,186,18pS1,186,18qS1,184,17wS1,184,17xS1,184,17y
    S1,184,18lS1,184,181S1,183,181S1,185,181S1,186,181S1,184,17wS1,184,17xS1,184,17yS1,184,18l
    S1,183,18nS1,184,18nS1,187,18lS1,183,17wS1,183,17xS1,183,17yS1,184,17wS1,184,17xS1,184,17y
    S1,187,18lS1,188,18lS2,17r,18rViS1,17u,17w,18lS2,17u,17x,17wS1,17u,17x,18lS1,17u,17y,18l
    S1,17u,18l,17wS1,17u,18l,17xS1,17u,18l,17yS2,17w,18l,17xS1,17x,18l,18qS1,17x,18l,18p
    S1,183,17x,17wS1,183,17w,17xS1,183,17w,18pS2,183,18l,17xS1,183,18l,17wS2,183,18l,18l
    S2,185,17x,17xS1,185,18l,18lS2,184,17x,18lS1,184,17w,18qS2,184,18l,17yS2,184,18l,18l
    S1,186,17x,18pS2,186,17y,18lS2,187,18l,17xS1,187,18l,18lS1,187,18l,18qS1,189,17w,18l
    S2,189,18l,18lS1,189,18l,18pS1,18a,18l,18lS1,18a,18l,18qS1,18a,18l,18pS2,18h,17y,18l
    S1,18i,18l,17xS1,18i,18l,18lS1,18k,17x,18lS1,18k,17x,18qS1,18k,17x,18pS2,18k,17w,17w
    S2,18k,17y,18lS2,18k,18l,17xS1,18l,17x,17wS1,18l,17x,18lS1,18l,17x,18qS1,18l,17w,17x
    S1,18l,17w,18lS1,18l,17y,17wS1,18l,17y,18lV2S1,18l,17w,17yS1,18n,18l,17wS1,18n,18l,18l
    S1,18m,17x,18lS1,18m,17x,18pS2,18m,17w,18lS1,18m,17w,18pS1,18m,18l,18qS1,18m,18l,18p
    S2,18q,18l,18lS1,17s,17y,18qS1,17u,17w,18qS1,17u,17w,18pS1,17u,17y,18qS1,17u,17y,18p
    S1,17u,18l,18qS1,17u,18l,18pS1,17w,18l,18qS1,17w,17x,18pS1,17w,18l,18pS1,183,17y,18p
    S1,185,17x,18qS1,184,17x,18qS1,186,17x,18qS1,18k,17w,18qS1,18k,18l,18qS1,18q,17x,18q
    S1,18q,17w,18qS1,18q,18l,18qS1,18l,18l,18qS1,18i,18l,18qS1,18m,17x,18qS1,18i,18l,17x
    S1,18k,17x,18lS1,189,18l,18qS1,18j,18l,18qS1,18m,17w,17xS1,18l,17y,18qS1,18k,17w,18l
    S1,18j,18l,18lS1,18k,17w,18lS1,18m,17w,17xS1,17w,17x,18qS1,17x,17w,18qS1,18l,17w,18q
    S1,18h,18l,18qS1,17s,17x,18qS1,18j,18l,18lS1,189,17w,18lS1,185,18l,18lS1,183,17y,18q
    S1,18m,17w,18qV8XwS1,185,18k,1ciS1,18i,18k,1ciS1,17r,18k,18k,18nS1,17r,18j,17s,181
    S1,18l,17x,18l,17zS1,185,18k,189,18lS1,181,183,18o,18kS1,189,18k,18q,18nS1,18o,183,18k,18l
    S1,185,18k,18pS1,185,18k,18p,w,17r,18k,18k,18n,w,189,18k,18q,18n,w,18o,183,18k,18l
    S1,17w,18k,w,17w,18k,17r,18k,18nS1,181,1cc,17r,18kV3IgQ1,1e5gQ1,14pcX1Q2,1e55Q1,1e5wQ1,1e53
    Q2,14oxX7VgX1Q1,17vhQ1,17vjQ1,1e50Q1,1e51Q2,1e6lQ1,1e4cQ1,1e4bQ2,14pxQ2,14q3Q2,14qbQ2,14qf
    Q4,14qdV2Q1,1e5oQ1,1e5nS4,w,lhQ1,1e5qQ1,1e5rQ1,1e5sQ1,1e78Q1,14r4X2Q1,1e6xQ1,1e6zQ1,1e6v
    Q1,1e7qQ1,17wkQ2,1e7lQ1,1e5cQ1,1e5bQ2,14qxQ1,1e7wQ1,1e7uQ2,1e7rQ1,1e7qQ1,1e7cQ1,1e7bQ1,1e7d
    X1Q1,1e6kQ2,1e85Q1,1e7fX4S1,w,18rS1,18g,18rS1,w,18sV1S1,w,18tX1S1,w,18uS1,18g,18uS1,w,18v
    S1,18g,18vS1,w,18wS1,18g,18wS1,w,18xS1,18g,18xS1,w,18yS1,18g,18yQ2,1d27Q2,1d28Q2,1d29Q2,1d2a
    Q2,1d2bQ1,1d2cQ1,1d2dQ2,1d2eQ2,1d2fQ1,1d2gQ1,1d2hQ2,1d2iQ2,1d2jQ1,1d2kQ1,1d2lQ2,1d2mQ1,1d2n
    Q1,1d2oQ2,1d2pQ1,1d2qQ1,1d2rQ2,1d2sQ1,1d2tQ1,1d2uQ2,1d2vQ1,1d2wQ1,1d2xQ2,1d2yQ2,1d2zQ2,1d30
    Q2,1d31Q2,1d32Q1,1d33Q1,1d34Q2,1d35Q1,1d36Q1,1d37Q2,1d38Q1,1d39Q1,1d3aQ2,1d3bQ1,1d3cQ1,1d3d
    Q2,1d3eQ1,1d3fQ1,1d3gQ2,1d3hQ1,1d3iQ1,1d3jQ2,1d3kQ1,1d3lQ1,1d3mQ2,1d3nQ1,1d3oQ1,1d3pQ1,1d3q
    Q1,1d3kQ1,1d3lQ1,1d3mQ2,1d3nQ1,1d3oQ1,1d3pQ2,1d3qQ1,1d3rQ1,1d3sQ2,1d3tQ1,1d3uQ1,1d3vQ2,1d3w
    Q1,1d3xQ1,1d3yQ2,1d3zQ1,1d40Q1,1d41Q2,1d42Q1,1d43Q1,1d44Q2,1d45Q2,1d46Q2,1d47Q1,1d48Q1,1d49
    Q1,1d4aS2,18k,17mS2,18k,17nS2,18k,17pS2,18k,17rX2I1X1Qw,1ecgQq,1ebkQ10,1ecgQ2,168qQ1,1eer
    Q2,14yeQ1,14yrQ1,14ruQ1,14s4Q1,14ueQ1,14udQ1,14ucQ1,14ubQ1,14uaQ1,14spQ1,14soQ1,14snQ1,14to
    Q1,14s4Q1,14unQ1,14umQ1,14ulQ1,14ukQ2,14ujQ1,14uiQ1,14uhQ1,14ugQ1,14ufQ1,14ueQ1,14udQ1,14uc
    Q1,14ubQ1,14uaQ1,14u9Q1,14u8Q1,14u6Q1,14u5Q1,14u4Q6,14u3Q1,14u1Q1,14tzQ1,14txQ1,14tvQ5,14tt
    Q1,14tsQ1,14trQ6,14tqQ1,14tpQ1,14tmQ2,14w5I1Q2,1b4xQ1,1b09Q1,1b4yQ2,1b09Q3,1b50Q6,1b0a
    Q1,1b4mQ3,1b57Q1,1b4jQa,1b58X3Q6,1b35X2Q6,1b37X2Q6,1b39X2Q3,1b3bX3Q2,1ef2Q1,1eeuS1,w,lg
    Q1,1ef2Q1,1ef4Q1,183hX1Q1,178mQ4,17x5Q1,174dQ1,1737XhVcX1VqX1VjX1V2X1VfX2VeXyV3fX5V3X4V19X3
    V2gX1VdX3V1X1bV1aX3mVtX3V1dXfVsX4V10X9VuX5V17X5VuX1V11X4VeX16P14,14V3aX2VaX6P10,14X4V10X4V14
    X8V1gXbV1Pb,13X1Pf,13X1P7,13X1P2,13X1VbX1VfX1V7X1V2X3V1gXcV8nX9VmXaV8XoV1Q2,1fhtQ1,1fvh
    Q1,1fjfQ1,1fleX1Q1,1fj8Q1,i76Q1,1fj8Q1,1fjaQ2,1flhQ1,1a7wQ1,1fliQ1,1fldQ1,1fjbQ1,1fl9Q1,1flc
    Q1,1flfQ1,1fjtQ1,1fu6Q1,1fjuQ1,1flcQ1,1fkkQ2,1fjjQ1,1flbP1,16jsQ1,iz3Q1,1flcP1,16jqQ1,1fki
    P1,16jpQ1,1fvuQ2,1fl9Q1,1fzoQ1,1fl8P1,16jlQ2,1fl7Q1,1fl6Q1,1fk3Q1,1fk6Q1,i86Q1,1fk7Q1,1fl3
    Q1,17b3X1Q1,1fkzQ2,1fkiQ1,1fktQ3,1fquP1,16j5P1,16joX1xV6X2V1X1V18X1V2X3V1X2VnX1V20X8V9X1cVj
    X1V2X5VxX3VrX5VrX12V1kX4VkX2V1eX1V2X5V8X1V3X1VtX2V3X4VaX7V9X7V1sXwV13X4VcX9V1iX3VtX2VrX5VqX7
    V4XcV7X28V21X1jP1f,1sXdV1fX7V1aX8VaX6VgPm,wX3VtX8V2X5sVvX1V16X1V3X2V2XgV6X8V9XxV1aX8V16XmVq
    X12VsXkVnX9V26X4V10X9V1qX1V5XdVpX7VaX6V1hX1ViX8V13X9V2oX1VkXbViX1V1bX1qV7X1V1X1V4X1VfX1VbX6
    V1nX5VaX6V4X1V8X2V2X2VmX1V7X1V2X1V5X1VaX2V2X2V3X2V1X6V1X5V7X2V7X3V5XbVaX1V1X2V1X1V12X1VaX1V1
    X2V1X1V4X1VaX1V2X8V2XtV2kX1V5XuV20X8VaX4mV1iX2V12XyV1xXbVaX6VdXjV1mX6VaX6VkXsVrX2VfX4VnX55
    V1oX2sPw,wV1fXcV8X2V1X2V8X1V2X1VuX1V2X2VcX9VaX1yV8X2V1aX2VbXrV20X8V2bXdV21X7VaX2eV8X2gVyXeVa
    X6V9X1V19X1VeXaVtX3VwX2VmX1VeX21V7X1V2X1V18X3V1X1V2X1V9X8VaX6V6X1V2X1V11X1V2X1V6X7VaX6V18X4
    VaX6uVpX7VhX1V15X3VtX2dV1XfV1eXdVpnX2uV33X1V5XbV5gX218V2rXdVtsXgVmXaV32zX5Vg7X5a1V1mX1c6Vft
    X7VvX1VaX4V29X1VaX6VuX2V6XaV1yXaVaX1V7X1VlX5VjXc0V1mX5iPw,wV1nX5Pp,rX2VpX18V23X4V1lX7VhX1sV5
    XbV7X9V5p2X15VwX2pV37X6ppV4X1V7X1V2X1V83XfV1XtV3X2V1XeV4X8Vb0X1s4V2zX5VdX3V9X7VaX2V4I4X318
    V5yQq,2iydQa,2j0gV3X3Vc4X6VnXfVhXfV1aX2VnX9V38X1oV6uXaV13X2V1hS1,2jx3,2jxhS1,2jx4,2jxh
    S1,2jx4,2jxh,2jxqS1,2jx4,2jxh,2jxrS1,2jx4,2jxh,2jxsS1,2jx4,2jxh,2jxtS1,2jx4,2jxh,2jxuVeI8V1s
    S1,2jzt,2jxhS1,2jzu,2jxhS1,2jzt,2jxh,2jxqS1,2jzu,2jxh,2jxqS1,2jzt,2jxh,2jxrS1,2jzu,2jxh,2jxr
    V16XlV1yX3eVkXcVkXcV2fX9VpX3rQq,2kdbQq,2ke1Qq,2kerQ7,2kfhX1Qi,2kfhQq,2kg7Qq,2kgxQ1,2khnX1
    Q2,2khnX2Q1,2khnX2Q2,2khnX2Q4,2khnX1Q8,2khnQ4,2kidX1Q1,2kidX1Q7,2kidX1Qb,2kidQq,2kj3Qq,2kjt
    Q2,2kkjX1Q4,2kkjX2Q8,2kkjX1Q7,2kkjX1Qq,2kl9Q2,2klzX1Q4,2klzX1Q5,2klzX1Q1,2klzX3Q7,2klzX1
    Qq,2kmpQq,2knfQq,2ko5Qq,2kovQq,2kplQq,2kqbQq,2kr1Qq,2krrQq,2kshQq,2kt7Qq,2ktxQq,2kunQq,2kvd
    Q1,2kqbQ1,2kj2X2Qh,2k8nQ1,2k8xQ7,2k8nQ1,2e9mQh,2k9dQ1,2k9cQ7,2k9dQ1,2eahQ1,2k9zQ1,2k9x
    Q1,2k9wQ1,2k9lQ1,2k9rQ1,2k9tQh,2ka9Q1,2kajQ7,2ka9Q1,2eb8Qh,2kazQ1,2kayQ7,2kazQ1,2ec3Q1,2kbl
    Q1,2kbjQ1,2kbiQ1,2kb7Q1,2kbdQ1,2kbfQh,2kbvQ1,2kc5Q7,2kbvQ1,2ecuQh,2kclQ1,2kckQ7,2kclQ1,2edp
    Q1,2kd7Q1,2kd5Q1,2kd4Q1,2kctQ1,2kczQ1,2kd1Qh,2kdhQ1,2kdrQ7,2kdhQ1,2eegQh,2ke7Q1,2ke6Q7,2ke7
    Q1,2efbQ1,2ketQ1,2kerQ1,2keqQ1,2kefQ1,2kelQ1,2kenQh,2kf3Q1,2kfdQ7,2kf3Q1,2eg2Qh,2kftQ1,2kfs
    Q7,2kftQ1,2egxQ1,2kgfQ1,2kgdQ1,2kgcQ1,2kg1Q1,2kg7Q1,2kg9Q1,2kfhQ1,2kfiX2Qa,2l5qQa,2l60
    Qa,2l6aQa,2l6kQa,2l6uVi4XfV5X1VfXuoVvX6V6X5xV7X1VhX2V7X1V2X1V5X5Q9,2m0wQ3,2m0vQb,2m0uQ1,2m0s
    Q2,2m0rQ1,1pz5Q1,2lwyQ1,2m0mQ1,2m0lQ1,2lwlQ1,2ly8Q1,2lxdQ9,2m1tQ2,2m1sQ2,2m1qQ1,2m1pQ6,2m1o
    Q2,2m1nQ1,2lzqQ1,2m1eQ1,2m1gQ1,2m17Q1,2lz4Q1,1q1nQ1,2lz0XxV1X34V19X3VeX2VaX4V2X8wVvXhV1mX5V1
    XcwV16X5yV17X4V1X5cVvX1VmX8V2X68V7X1V4X1V2X1VfX1V5hX2VgX15Py,yV16X4VaX4V2XltV1wX24V1pX5e
    Q2,2od5Q1,2od2Q1,2od0X1Q1,2ocdQ1,2od0Q1,2od6Q1,2ocxQ1,2ocfQ4,2ocnQ1,2od7Q1,2od2Q1,2ocv
    Q1,2od8Q1,2ocwQ1,2odeQ1,2odcQ2,2odnQ1,2odlQ1,2odkQ1,2odfQ1,2odeQ1,2oddQ1,2obyQ1,2o9vQ1,2oal
    Q1,2oc0X1Q1,2oe1Q1,2odyX1Q1,2od9X2Q1,2oe2X1Q1,2odbQ4,2odjQ1,2oe3Q1,2odyQ1,2odrQ1,2oe4Q1,2ods
    X1Q1,2oe8Q2,2oejQ1,2oehX1Q1,2oebX1Q1,2oe9X6Q1,2oeuX4Q1,2oeyX1Q1,2oe7X1Q1,2oefX1Q1,2oef
    Q1,2oezQ1,2oeuX1Q1,2of0Q1,2oeoX1Q1,2of4X2Q1,2ofdX1Q1,2of7X1Q1,2of5X1Q1,2obnX1Q1,2odsX1
    Q1,2oftQ1,2ofqX1Q1,2of1X2Q1,2ofuQ1,2oflQ1,2of3Q1,2ofbX1Q2,2ofbQ1,2ofvQ1,2ofqQ1,2ofjQ1,2ofw
    Q1,2ofkX1Q1,2og0Q2,2ogbQ1,2og9X1Q1,2og3Q1,2og2Q1,2og1Q1,2oemX1Q1,2od9X1Q2,2ogpQ1,2ogmQ1,2ogk
    Q2,2ofxQ1,2ogkQ1,2ogqQ1,2oghQ1,2ofzX1Q3,2og7Q1,2ogrQ1,2ogmQ1,2ogfQ1,2ogsQ1,2oggQ1,2ogy
    Q1,2ogwQ2,2oh7Q1,2oh5Q1,2oh4Q1,2ogzQ1,2ogyQ1,2ogxX5Q1,2ohlQ1,2ohiQ1,2ohgX1Q1,2ogtQ1,2ohg
    Q1,2ohmQ1,2ohdQ1,2ogvX1Q3,2oh3Q1,2ohnQ1,2ohiQ1,2ohbQ1,2ohoQ1,2ohcQ1,2ohuQ1,2ohsQ2,2oi3
    Q1,2oi1Q1,2oi0Q1,2ohvQ1,2ohuQ1,2ohtX1gV2X7iV18X4V2sXcVfX2VfX1VfX1V11XbS1,1c,18S1,1d,18
    S1,1e,18S1,1f,18S1,1g,18S1,1h,18S1,1i,18S1,1j,18S1,1k,18S1,1l,18V5S1,14,2p,15S1,14,2q,15
    S1,14,2r,15S1,14,2s,15S1,14,2t,15S1,14,2u,15S1,14,2v,15S1,14,2w,15S1,14,2x,15S1,14,2y,15
    S1,14,2z,15S1,14,30,15S1,14,31,15S1,14,32,15S1,14,33,15S1,14,34,15S1,14,35,15S1,14,36,15
    S1,14,37,15S1,14,38,15S1,14,39,15S1,14,3a,15S1,14,3b,15S1,14,3c,15S1,14,3d,15S1,14,3e,15
    S1,9hw,37,9hxQ1,2q4oQ1,2q4aS1,2r,2sS1,3b,3eV1Qq,2q4vS1,2w,3aS1,31,3aS1,37,2sS1,37,37
    S1,34,34,3aS1,3b,2rVqS1,31,2rS1,31,2sS1,31,36VzS1,2s,2yVtX1kVqS1,9kr,9jfS1,9mb,9mbQ1,2gr1Xd
    Q1,26ytQ1,28caQ1,29tyQ1,2gr0Q1,2avcQ1,28sbQ1,1z5fQ1,28ryQ1,2ausQ1,267tQ1,241lQ1,26bmQ1,2a4v
    Q1,27ipQ1,2aa9Q1,26b3Q1,2a6bQ1,21njQ1,239fQ1,1ym2Q1,28twQ1,29rgQ1,24giQ1,26xeQ1,26s3Q1,2azt
    Q1,2azlQ1,1xwhQ1,27uuQ1,2ayoQ1,29tnQ1,26ugQ1,1ygwQ1,26ziQ1,22epQ1,227tQ1,29t8Q1,24l1Q1,2625
    Q1,2627Q1,239hQ1,2a4nQ1,29hgQ1,1xpqX4S1,9hw,kdo,9hxS1,9hw,fex,9hxS1,9hw,fik,9hx
    S1,9hw,i2x,9hxS1,9hw,m9l,9hxS1,9hw,jf7,9hxS1,9hw,nh3,9hxS1,9hw,gd9,9hxS1,9hw,k0n,9hxX7
    Q1,27jtQ1,29uqXeV6X4aVrdX3VhX3VdX3V62X6VcX4V1XfVcX4V1kX8VaX6V14X8VuX2VcX4V2XeV9X13V9kX8VeX2
    VdX3VbX3V1lX1V1X4VgX2VcX4VaX7V43X1V2kQa,2saoV1XslVwyoXwV3dqX2V4geX2V5rlXfVhaX1wiQ1,3qo3
    Q1,3qo9Q1,3qo1Q1,1crlQ1,3qg4Q1,3qdzQ1,3qdnQ1,3qbpQ1,3q8eQ1,3q7kQ1,3q5fQ1,3q64Q1,3vqmQ1,1brn
    Q1,3q2pQ1,3q2jQ1,3q24Q1,3q1mQ1,1bzqQ1,3vq2Q1,3q25Q1,3q14Q1,1byjQ1,3q0wQ1,3q0kQ1,3qktQ1,3q0e
    Q1,3q06Q1,k71Q1,3pygQ1,3py3Q1,3vpcQ1,3pwlQ1,3pwbQ1,3pv4Q1,3pv0Q1,3vnzQ1,3psuQ1,3pstQ1,3ps3
    Q1,3priQ2,3pr8Q1,3pqsQ1,3ppfQ1,3pp8Q1,3pp0Q1,3pocQ1,3po3Q1,3po2Q1,3po3Q1,3po4Q1,1b0oQ1,3jyd
    Q1,3pm4Q1,3plkQ1,1as5Q1,3plaQ1,3pl5Q1,3pklQ1,3pgeQ1,3pj9Q1,3piuQ1,3phzQ1,3pgeQ1,3pe3Q1,3pde
    Q1,3pbkQ1,3pb5Q1,3pa9Q1,3paaQ1,3p9qQ1,3p99Q1,3p92Q1,3p8oQ1,3oz9Q1,3p6uQ1,3ozaQ1,3p4tQ1,3p3v
    Q1,3pzdQ1,3ombQ1,3oucQ1,3otbQ1,3osnQ1,3owaQ1,3oroQ1,3orqQ1,3oocQ1,18xhQ1,3omgQ1,3omcQ1,3oly
    Q1,3olfQ1,3ol8Q1,3ojhQ1,18l4Q1,18jbQ1,3ofqQ1,3oegQ1,3oe5Q1,3ogdQ1,3ocgQ1,3vcpQ1,3vccQ1,3o81
    Q1,3o6kQ1,3o6lQ1,17z8Q1,3o2yQ1,3o2eQ1,3o20Q1,3o1pQ1,17q1Q1,3o1fQ1,3o19Q1,3ndtQ1,3o0jQ1,3v91
    Q1,3nyvQ1,3nyiQ1,3nw9Q1,3nxpQ1,176fQ1,3nspQ1,176fQ1,3nrkQ1,3nroQ1,3nr8Q2,3nogQ1,3v4kQ1,3nnr
    Q1,3nmlQ1,3nm1Q1,3nkuQ1,3v3aQ1,16h2Q1,3v2mQ1,3nizQ1,3nixQ1,3nivQ1,3nicQ1,gsdQ1,3ngyQ1,165c
    Q1,165dQ1,3gk2Q1,3ng2Q1,3ng3Q1,3v0vQ1,1333Q1,tryQ1,3nefQ1,3ne7Q1,3v08Q1,3ncyQ1,3nbkQ1,3nbb
    Q1,3naeQ1,3n6nQ1,3uxzQ1,3uyuQ1,3n67Q1,15g0Q1,3n4uQ1,3n1aQ1,3n17Q1,3n16Q1,3n19Q1,3n00Q1,3mzh
    Q1,3myiQ1,3myxQ1,3mynQ1,3mxdQ1,3mwuQ1,3mwrQ1,3mw2Q1,3mvsQ1,3mtzQ1,3mroQ1,3mqqQ1,3mnbQ1,14mk
    Q1,3mnwQ1,3mpqQ1,3mmrQ1,3mm1Q1,3mjdQ1,14gdQ1,3mhpQ1,3mkbQ1,3ml4Q1,3us4Q1,3mfuQ1,3mfaQ1,3meg
    Q1,3mfjQ1,3uqjQ1,3m9lQ1,3m8tQ1,13nkQ1,3m5kQ1,3lxwQ1,3m2sQ1,3ulxQ1,3m0uQ1,3umgQ1,3unhQ1,3q68
    Q1,3q66Q1,3lxwQ1,3m0pQ1,3gvdQ1,3svyQ1,3lxdQ1,3lxaQ1,3lx5Q1,3lvhQ1,3lvtQ1,12xmQ1,3ul1Q1,3lr9
    Q1,3lujQ1,3lovQ1,3lnhQ1,12t2Q1,3lnaQ1,3lqeQ1,3ljmQ1,3uiyQ1,3lieQ1,3lfqQ1,3ldsQ1,3l8jQ1,12dl
    Q1,3l76Q1,3ufqQ1,3l5aQ1,11zdQ1,3l3xQ1,3uecQ1,3l35Q1,3l1xQ2,3l17Q1,11m2Q1,17fxQ1,11j3Q1,3kx8
    Q1,116nQ1,3ku5Q1,3ktsQ1,3kwnQ1,3krtQ1,3kqqQ1,3kp6Q1,3kqpQ1,3kpmQ1,3kp8Q1,3kowQ1,1148Q1,3kr7
    Q1,3kk9Q1,3kijQ1,3u8nQ1,3kg0Q1,3kg5Q1,10scQ1,3klxQ1,3kblQ1,10oiQ1,10n7Q1,3k98Q1,3k62Q1,3k6u
    Q1,3k6yQ1,3u68Q1,3k5pQ1,3k4bQ1,3k4iQ1,3k31Q1,1c6uQ1,3jyvQ1,103eQ1,3jwiQ1,zucQ1,3jsoQ1,3jsc
    Q1,3jrmQ1,zdnQ1,3jqcQ1,3jpsQ1,z5dQ1,yz7Q1,3jjiQ1,3jj2Q1,3tz2Q1,3jieQ1,3tysQ1,3tytQ1,3jdz
    Q1,3jdfQ1,3jcvQ1,3jccQ1,3jagQ1,3tw8Q1,3j80Q1,y67Q1,3j7cQ1,y3pQ1,3j60Q1,16l6Q1,3j1mQ1,xi2
    Q1,xhgQ1,xdlQ1,3tqaQ1,3tpzQ1,3ivgQ1,x8uQ1,x8wQ1,x7uQ1,x75Q2,3iufQ1,3iugQ1,3itaQ1,3towQ1,3irj
    Q1,3tolQ1,3tmeQ1,wmoQ1,3im8Q1,3ikjQ1,3iisQ1,3tkeQ1,w8cQ1,3if1Q1,w56Q1,w40Q1,3idjQ1,3ib0
    Q1,3tihQ1,3i8pQ1,3i8gQ1,3i8cQ1,vkwQ1,vcmQ1,vcnQ1,3i41Q1,3tcuQ1,v5iQ1,3hy4Q1,3hy2Q1,3tbx
    Q1,uzpQ1,3hqsQ1,3t8nQ1,3hq8Q1,3hqeQ1,3hpmQ1,uedQ1,3hmxQ1,3t64Q1,3hk7Q1,3hilQ1,3hgrQ1,3t4t
    Q1,tvuQ1,tv0Q1,3t3vQ1,tr0Q1,3h8cQ1,to9Q1,3h7nQ1,3h4vQ1,3h4lQ1,tcxQ1,taxQ1,3h25Q1,t7aQ1,3h1r
    Q1,134xQ1,3t0sQ1,3h00Q1,3gxsQ1,3szdQ1,3gw7Q1,3oi9Q1,stcQ1,sszQ1,133qQ1,133iQ1,3gqyQ1,3gqw
    Q1,3e27Q1,3swzQ1,3gn2Q1,3gn9Q1,3gmsQ1,3q3jQ1,3gmaQ1,3gm9Q1,3gm0Q1,3gkwQ1,s4bQ1,3gkzQ1,3gjg
    Q1,3ghjQ1,3gfiQ1,3gjdQ1,3gf4Q1,3gdzQ1,3gawQ1,3gi5Q1,3gevQ1,3geuQ1,3gefQ1,rxqQ1,rp6Q1,rtd
    Q1,3sscQ1,3g6vQ1,3g6uQ1,3g5wQ1,qg1Q1,3g3sQ1,rcxQ1,3sr5Q1,3sr2Q1,r9bQ1,r1bQ1,3sqvQ1,3fxf
    Q1,3fx4Q1,3fwuQ1,3fwtQ1,3fv2Q1,3fw0Q1,3fsbQ1,3ftkQ1,3fpeQ1,3froQ1,3fpuQ1,3fp4Q1,3so8Q1,3fmn
    Q1,3flsQ1,3sndQ1,3fj7Q1,3fj5Q1,py6Q1,3ffzQ1,3fftQ1,3slvQ1,3ff3Q1,3w27Q1,pi5Q1,pd2Q1,3si7
    Q1,3shzQ1,3f3jQ1,3f1fQ1,3ex3Q1,3erhQ1,oq3Q1,3ep5Q1,3eokQ1,3em3Q1,3ejkQ1,o89Q1,1brpQ1,3ehb
    Q1,3ehrQ1,3egcQ1,1blrQ1,3ea2Q1,3e7bQ1,mxaQ1,mwkQ1,3dxqQ1,3dv6Q1,3dubQ1,mnrQ1,3du3Q1,3dm7
    Q2,3dhtQ1,3dkeQ1,3d9uQ1,3d93Q1,lpvQ1,3cyrQ1,3ryyQ1,3cxlQ1,lfeQ1,3rwsQ1,3cq8Q1,3o02Q1,3cnm
    Q1,kohQ1,kilQ1,3rt6Q1,3rszQ1,3ciiQ1,k4xQ1,3rreQ1,k13Q1,3chfQ1,3chgQ1,3cgnQ1,jt7Q1,3cbk
    Q1,3ro0Q1,3c9nQ1,3c66Q1,3c5gQ1,3c3tQ1,3rjuQ1,iqhQ1,3bw8Q1,3bnvQ1,3binQ1,3rcvQ1,3rc1Q1,3bfs
    Q1,hmqQ1,3rbtQ1,hl9Q1,hdxQ1,habQ1,3b6iQ1,3r9cQ1,3b4uQ1,3b4qQ1,3b4kQ1,3b4bQ1,3b45Q1,3b35
    Q1,gm5X15uV3t7X5V6juXf62uI6oX47bk"

/-- The text that stands for a character of a domain name; none for a refused one. -/
def mapDomainChar (c : Char) : Option (List Char) :=
  let r := domainMappingTable.runOf c
  match r.kind with
  | 'V' => some [c]
  | 'I' => some []
  | 'P' => some [Char.ofNat (c.toNat + r.args.headD 0)]
  | 'Q' => some [Char.ofNat (c.toNat - r.args.headD 0)]
  | 'S' => some (r.args.map Char.ofNat)
  | 'A' => some [if (c.toNat - r.start) % 2 = 0 then Char.ofNat (c.toNat + 1) else c]
  | _ => none

end Switchyard
