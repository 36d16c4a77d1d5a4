import ScriptSandbox.Text.Ranges

/-!
# Characters of domain names

Before a domain name is used, each of its characters is kept, dropped, replaced, or refused.
Replacing takes away differences of letter case and of width, and writes characters that are made of
others by those; what it gives is kept when it is mapped again. The tables are in the order of the
code points.
-/
namespace ScriptSandbox.Url.Idna

def keptTable : String :=
  "0-1s r-10 y-6 2 2-1 2 2-1 5-1 4 4 o 8-w 2 2 2 2 2 2 2 2 2 2 2 2 2 2 2 2 2 2 2 2 2 2 2 2 2 4 " ++
  "2-1 2 2 2 4 2 2 2 3 2 2 2 2 2 2 2 2 2 2 2 2 2 2 2 2 2 2 2 2 2 2 3 2 2 2 3 2 3 4-1 5 3 4-2 3 3 " ++
  "2 2 3 2-1 2 3 4 2 3-2 2-6 b 2 2 2 2 2 2 2-1 2 2 2 2 2 2 2 2 2-1 5 4 2 2 2 2 2 2 2 2 2 2 2 2 2 " ++
  "2 2 2 2 2 2 2 2 2 2 2 2 2 2 2 2-6 3 3-1 2 5 2 2 2 2-2o a-u 7-1 6-2i 3 4-8 2-v 2 2 2 2 4-2 j " ++
  "s-y 9 2 2 2 2 2 2 2 2 2 2 2 2 4 3 2 3-1 1g-1b 2 2 2 2 2 2 2 2 2 2 2 2 2 2 2 2 2-8 2 2 2 2 2 2 " ++
  "2 2 2 2 2 2 2 2 2 2 2 2 2 2 2 2 2 2 2 2 2 3 2 2 2 2 2 2-1 2 2 2 2 2 2 2 2 2 2 2 2 2 2 2 2 2 2 " ++
  "2 2 2 2 2 2 2 2 2 2 2 2 2 2 2 2 2 2 2 2 2 2 2 2 2 2 2 2 2 2 16-19 2-2 3-2 2-1i 9-q 5-5 i-l " ++
  "2-2f 5-2r 2-1b 3-1m 3-2s f-1m 3-1c 3-e 2-r 3 2-a 6-v 8-22 2-38 9-z 2-7 3-1 3-l 2-6 2 4-3 3-8 " ++
  "3-1 3-3 9 9-3 3-o 3-2 2-5 5-1 3-l 2-6 2 3 3-1 3 2-4 5-1 3-2 4 b a-g b-2 2-8 2-2 2-l 2-6 2-1 " ++
  "2-4 3-9 2-2 2-2 3 g-3 3-b 8-6 2-2 2-7 3-1 3-l 2-6 2-1 2-4 3-8 3-1 3-2 8-2 8-4 3-h b-1 2-5 4-2 " ++
  "2-3 4-1 2 2-1 4-1 4-2 4-b 5-4 4-2 2-3 3 7 f-k 6-c 2-2 2-m 2-f 3-8 2-2 2-3 8-1 2-2 2-1 3-3 3-9 " ++
  "8-l 2-2 2-m 2-9 2-4 3-8 2-2 2-3 8-1 6-2 2-3 3-9 2-2 d-c 2-2 2-1e 2-2 2-5 5-f 3-p 2-2 2-h 4-n " ++
  "2-8 2 3-6 4 5-5 2 2-7 7-9 3-2 d-1d 2-6 5-s 12-1 2 2-4 2-n 2 2-b 2-9 3-4 2 2-6 2-9 5-1 x-b 2-1h " ++
  "2-3 2-3 2-3 2-3 2-3 2-b 2-2 5-1 2 6-6 2-g 2-3 2-3 2-3 2-3 2-3 2-b 2-2 2-e 2-c 12-4f 1d-17 2-2p " ++
  "3-6f 2-3 3-6 2 2-3 3-14 2-3 3-w 2-3 3-6 2 2-3 3-e 2-1k 2-3 3-1u 3-v 4-p 7-2d b-hr 2-r 4-2g 8-l " ++
  "a-n a-j d-c 2-2 2-1 d-1f 3-13 3-9 7-9 7-a 6-9 7-2g 8-16 6-1x b-u 2-b 5-b 5 4-15 3-4 c-17 5-p " ++
  "7-a 4-1p 3-1s 2-s 3-a 7-9 7-d 3-19 3-b l-24 2-4l 9-1n 4-e 4-1e b 1i-7 9-16 6-17 4 c j t-c 2-x " ++
  "12-1r 2 2 2 2 2 2 2 2 2 2 2 2 2 2 2 2 2 2 2 2 2 2 2 2 2 2 2 2 2 2 2 2 2 2 2 2 2 2 2 2 2 2 2 2 " ++
  "2 2 2 2 2 2 2 2 2 2 2 2 2 2 2 2 2 2 2 2 2 2 2 2 2 2 2 2 2 2 2-4 3-1 2 2 2 2 2 2 2 2 2 2 2 2 2 " ++
  "2 2 2 2 2 2 2 2 2 2 2 2 2 2 2 2 2 2 2 2 2 2 2 2 2 2 2 2 2 2 2 2 2 2 2 2-8 9-5 b-7 9-7 9-5 b-7 " ++
  "9-7 9 2 2 2 2 2 2 1g-1 5 g a-2 4-1 9-2 2-3 f m-1 3 2-4 2-b 4 9-2 3 3-3 2 2-7 4-c 2-6 1u-7 2-o " ++
  "f-w k 4 c 3-1 6-1 4 2 2 2 5 c 7-3 6-5 1d-2 2-4 2-1 5-4b 3 3-6v 3-72 n-a 4h-10g 2-2u 4-2s 2-46 " ++
  "3-3t 1d-1b 2 4-1 2 2 2 5 2-1 2-5 6 2 2 2 2 2 2 2 2 2 2 2 2 2 2 2 2 2 2 2 2 2 2 2 2 2 2 2 2 2 2 " ++
  "2 2 2 2 2 2 2 2 2 2 2 2 2 2 2 2 2 2 2-7 2 2-3 2 6-18 2 6 3-1j 9 f-n a-6 2-6 2-6 2-6 2-6 2-6 " ++
  "2-6 2-6 2-3h z-p 2-3 2-2a 7j 2-1e 2 4-4 2-2d 3-1 3-1 2-2m 7-16 2p-1 f-1x b-f 21-7 1c ap-m8c " ++
  "4-1i a-9n m 2 2 2 2 2 2 2 2 2 2 2 2 2 2 2 2 2 2 2 2 2 2-i 2 2 2 2 2 2 2 2 2 2 2 2 2 2 3-2h 9-x " ++
  "2 2 2 2 2 2 2-2 2 2 2 2 2 2 2 2 2 2 2 2 2 2 2 2 2 2 2 2 2 2 2 2 2 2 2 2 2 2 2 2-7 2 2 3 2 2 2 " ++
  "2-3 2 2-1 2 2-2 2 2 2 2 2 2 2 2 2 2 6 6 2 2 2 2 2 2 2 5 2 3 2 2 2 2 2 2 2 r-1 3-1e 4-9 7-1j " ++
  "9-1x 9-b 7-37 c-t 4-25 2-a 5-w 2-1i a-d 3-9 3-2u p-r b-5 3-5 3-5 a-6 2-6 2-17 5-8 2-1 2d-19 " ++
  "3-9 7-8mb d-m 5-1c 6qb-1 2 2-1 b 2 2-1 3-2 6t 44-w a4-h 1t-1 1j-7 1a-2 x-f m-1 19 b1-b 2-p 2-i " ++
  "2-1 2-e 3-d z-3e 6-2 5-18 4-2f 2-c 4 1c-19 3n-s 4-1c g-r 5-z a-t 6-16 6-t 2-10 5-d 2b-39 3-9 " ++
  "1b-z 5-13 9-1f c 14-a 2-e 2-6 2-1 4-1f d-8m a-l b-7 p 3k-5 3 2-17 2-1 4 3-m 2-1z 9-8 1d-i 2-1 " ++
  "6-w 4-q 6-q 13-1j 5-j 3-1d 2-1 6-7 2-2 2-s 3-2 5-9 8-8 8-1r x-12 5-b a-1h 4-s 3-q 6-p 8-3 d-6 " ++
  "29-20 3c-1e 8-19 9-9 7-f q-s 9-1 5t-u 2-15 2-2 3-1 h-5 9-8 y-19 9-15 n-p 13-r l-m a-25 5-z " ++
  "a-1p 2-4 e-o 8-9 7-1g 2-h 9-12 a-2n 2-j c-h 2-1a 1r-6 2 2-3 2-e 2-a 7-1m 6-9 7-3 2-7 3-1 3-l " ++
  "2-6 2-1 2-4 2-9 3-1 3-2 3 7 6-6 3-6 4-4 c-9 2 3 2-11 2-9 2 3 2-3 2-9 2-1 9-1 u-2j 2-4 v-1z 9-9 " ++
  "4n-1h 3-11 z-1w c-9 7-c k-1l 7-9 7-j t-q 3-e 5-m 56-1n 3p-1e d-7 3 3-7 2-1 2-t 2-1 3-b a-9 " ++
  "1z-7 3-19 3-a s-1z 9-2a e-20 8-9 2f-7 2h-x f-9 7-8 2-18 2-d b-s 4-v 3-l 2-d 22-6 2-1 2-17 4 " ++
  "2-1 2-8 9-9 7-5 2-1 2-10 2-1 2-5 8-9 7-17 5-9 6v-o 8-g 2-14 4-s 2e g-1d e-pm 2v-32 2-4 c-5f " ++
  "219-2q e-tr h-l b-32y 6-g6 5a2-1l 1c7-fs 8-u 2-9 5-28 2-9 7-t 3-5 b-1x b-9 2-6 2-k 6-i c1-1l " ++
  "6f-1m x-o 19-22 5-1k 8-g 1t-4 c-6 a-5p1 16-v 2q-36 6pq-3 2-6 2-1 2-82 g u-2 3 f-3 9-az 1s5-2y " ++
  "6-c 4-8 8-9 3-3 31d-5x 11-2 4-c3 7-m g-g g-19 3-m a-37 1p-6t b-12 3-1g 8-d 9-1r 7-15 m-1x 3f-j " ++
  "d-j d-2e a-o w8-i3 g-4 2-e up-u 7-5 5y-6 2-g 3-6 2-1 2-4 2t 35-18 4-d 3-9 5-1 8x-u i-1l 6 " ++
  "cx-15 5z-16 5 5d-u 2-l 9-1 69-6 2-3 2-1 2-e 2-5g 3-f 24-15 5-9 5-1 lu-1v 25-1o c3-1 7j-17 5-2r " ++
  "d-e 3-e 2-e 2-10 m-4 w x-p 4-y 2-s 1l-p 2p-5 4b-rc 4-g 4-c 4-61 7-b 5 g-b 5-1j 9-9 7-13 9-t " ++
  "3-b 5-1 f-8 14-9j 9-d 3-c 4-a 4-1k 2 5-f 3-b 5-9 8-42 2-2j b sm-wyn x-3dp 3-4gd 3-5rk g-h9 " ++
  "3hf-3t6 6-6jt"

def droppedTable : String :=
  "4t iq 2s0-1 190-1 2e-4 1ks 2d-4 6-5 3cl 14f0-f 6o 4h 11c0-3 440-7 h47a-6n"

/-- The characters that are replaced. An item starts with the distance from the one before it,
unless that is one; a count after a hyphen stands for further characters, after an equals sign for
every second one. Behind the colon stand the code points for the first of them, and the others
follow in step. -/
def replacedTable : String :=
  "1t-p:2p 1y:w 8:w.lk 2:2p 5:w.lg 3-1:1e w.ld qk 3:w.mf 1d 33 2:1d.6dg.1g 1d.6dg.1e 1f.6dg.1g " ++
  "2-m:68 2-6:6w y=n:75 2:2x.lj 2:2x.2y 2x.2y 1=1:8l 3=2:8q 2:30.53 30.53 1=3:8y 2:jg.32 1=m:97 " ++
  "2:73 1=2:ai 2:37 2:gj 1=1:ar 2:gk aw 2-1:gm b0 3:d9 gp gr b6 2:gw gz 2:h5 h4 bd 4:hb he 2:hh " ++
  "1=2:bl 2:hs bs 2:hv 3:bx 2:i0 c0 2-1:i2 1=1:c4 2:ia c9 4:cd 8:2s.am 2s.am 2s.am 30.2y 30.2y " ++
  "30.2y 32.2y 32.2y 32.2y 1=7:cu 3=8:db 3:2s.3e 2s.3e 2s.3e dx 2:b9 cf 1=j:e1 2:bi 2=8:f7 8:8rp " ++
  "fw 2:be 8rq 3:g2 2:ao i1 i4 1=4:g7 2q:2w h2 2y 36 hl hn ht 3b 3d w:w.li w.lj w.lm w.mg w.lf " ++
  "w.ln 3:gz 30 37 3c id 2k-1:lc 2:lv lk.ld qh 17=1:oh 2:jd 2:on 4:w.qh 4:1n s3 5:w.ld w.lk.ld q4 " ++
  "53 1-2:q5 2:r0 2-1:r1 2-g:q9 2-8:qr 10:rb qa qg qt r1 qz qu qo 2=b:rd 2:qi qp qr 2:qg qd 2:s8 " ++
  "2:qr sb 3-2:or 1-f:uo 1-v:ts 1d=g:v5 a=q:wb 2:y7 1=6:xu 3=1b:y9 3-11:129 1d:12d.136 6m:17r.19w " ++
  "18o.19w 1c7.19w 18q.19w kg:1sl.1to 1sm.1to 1sn.1to 1ss.1to 1sx.1to 1sy.1to 1t7.1to 1tb.1to " ++
  "3h:1wh.1x8 1wi.1x8 2:1wv.1x8 2c:20i.20s 3:20o.20s z:1zq.20s 1zr.20s 1zw.20s 3:20b.20s " ++
  "72:275.27w 276.27w k6:2tp.2sy 3k:2x9.2wi 15:2wb.2vt 2wb.2w1 1b:2yz 1j:30i.33r a:30s.33r " ++
  "5:30x.33r 5:312.33r 5:317.33r d:30g.33p a:31t.31u 2:31t.31w 33m.328 33m.31t.328 33n.328 " ++
  "33n.31t.328 8:31t.328 i:32q.33r a:330.33r 5:335.33r 5:33a.33r 5:33f.33r d:32o.33p 6f-11:8w0 " ++
  "2:8x3 6:8x9 1b:3bw l8-5:3xs 1oj:tu tw u6 1-1:u9 ua ui v7 wuj 5my 7-16:3bk 3-2:3ct 31:2p 6e " ++
  "1=1:2q 2t d9 1-7:2v 2:33 f7 34 36 1-1:38 3b 2p 1-1:gg 5qa 2q 1-1:2s gp 1-1:gr 2v 2:2z 31 97 33 " ++
  "gk 1-1:5qu 34 1-1:38 5r1 hb 3a 5r9 1-2:qa 1-1:qu 2x 36 1-1:39 1-1:qa qp 1-1:qu e:u5 z:gi 2r gl " ++
  "6o gs 2u gv gx h1 1-2:h4 5tn il h9 5tx in hd hc 1-3:he hk 1-1:hu bv 1-1:i1 5r0 1-1:i3 3e " ++
  "1-2:i8 qg 1t=22:5xd 6:2p.ji 601 3:67 2=1b:61t a-7:64g 9-5:64w b-7:65c 9-7:65s 9-5:668 c=3:66p " ++
  "9-7:674 2:q4 2:q5 2:q6 2:q7 2:r0 2:r1 2:r2 3:64g.qh 64h.qh 64i.qh 64j.qh 64k.qh 64l.qh 64m.qh " ++
  "64n.qh 64g.qh 64h.qh 64i.qh 64j.qh 64k.qh 64l.qh 64m.qh 64n.qh 65c.qh 65d.qh 65e.qh 65f.qh " ++
  "65g.qh 65h.qh 65i.qh 65j.qh 65c.qh 65d.qh 65e.qh 65f.qh 65g.qh 65h.qh 65i.qh 65j.qh 674.qh " ++
  "675.qh 676.qh 677.qh 678.qh 679.qh 67a.qh 67b.qh 674.qh 675.qh 676.qh 677.qh 678.qh 679.qh " ++
  "67a.qh 67b.qh 3:67k.qh q9.qh q4.qh 3:69i.qh 1-1:69c 67k q4 q9.qh w.lv qh w.lv w.n6 w.lk.n6 " ++
  "67o.qh qf.qh q6.qh 3:69y.qh 67m q5 67o q6 qf.qh w.lv.lc w.lv.ld w.lv.n6 4:pc 5-1:6a8 67q q7 " ++
  "2:w.lw.lc w.lw.ld w.lw.n6 4:q8 5-1:6ao 67u r1 6at w.lk.lc w.lk.ld 2o 3:67w.qh qx.qh r2.qh " ++
  "3:6ba.qh 67s r0 67w r2 qx.qh w.ld w.lw 2:w w w w w w w w w w w 7:6c0 6:w.mr o:w 4:6cy.6cy " ++
  "6cy.6cy.6cy 2:6d1.6d1 6d1.6d1.6d1 5:x.x 2:w.lh 9:1r.1r 1r.x x.1r e:6cy.6cy.6cy.6cy 8:w h:1c 2x " ++
  "3-5:1g 17 6qa 1p 1-1:14 32 1-9:1c 17 6qa 1p 1-1:14 2:2p 2t 33 3c gp 2w 1-3:2z 34 1-1:37 " ++
  "c:36.37 2g:2p.1b.2r 2p.1b.37 2r 4w.2r 2:2r.1b.33 2r.1b.39 gr 2:4w.2u 1-1:2v 2w 2w 2w 87 2x 2x " ++
  "30 1=1:30 32.33 3-2:34 36 36 3:37.31 38.2t.30 38.31 2:3e 2:qx 2:3e 2:2z 6d 1-1:2q 2:2t 1-1:2t " ++
  "6ku 31 33 1-3:15c 2x 2:2u.2p.3c qo qb qb qo 6q9 5:2s 1-1:2s 1-1:2x 7:1d.6dg.1j 1d.6dg.1l " ++
  "1d.6dg.1d.1c 1d.6dg.1f 1e.6dg.1f 1d.6dg.1h 1e.6dg.1h 1f.6dg.1h 1g.6dg.1h 1d.6dg.1i 1h.6dg.1i " ++
  "1d.6dg.1k 1f.6dg.1k 1h.6dg.1k 1j.6dg.1k 1d.6dg 2x 2x.2x 2x.2x.2x 2x.3a 3a 3a.2x 3a.2x.2x " ++
  "3a.2x.2x.2x 2x.3c 3c 3c.2x 3c.2x.2x 30 1-1:2r 31 2x 2x.2x 2x.2x.2x 2x.3a 3a 3a.2x 3a.2x.2x " ++
  "3a.2x.2x.2x 2x.3c 3c 3c.2x 3c.2x.2x 30 1-1:2r 31 4:6mc 6:1c.6dg.1f 4j:6qz.6qz 6qz.6qz.6qz " ++
  "2:6r2.6r2 6r2.6r2.6r2 6x-1:9hk 8m-8:1d 1d.1c 1d.1d 1d.1e 1d.1f 1d.1g 1d.1h 1d.1i 1d.1j 1d.1k " ++
  "1d.1l 1e.1c 14.1d.15 14.1e.15 14.1f.15 14.1g.15 14.1h.15 14.1i.15 14.1j.15 14.1k.15 14.1l.15 " ++
  "14.1d.1c.15 14.1d.1d.15 14.1d.1e.15 14.1d.1f.15 14.1d.1g.15 14.1d.1h.15 14.1d.1i.15 " ++
  "14.1d.1j.15 14.1d.1k.15 14.1d.1l.15 14.1e.1c.15 l:14.2p.15 14.2q.15 14.2r.15 14.2s.15 14.2t.15 " ++
  "14.2u.15 14.2v.15 14.2w.15 14.2x.15 14.2y.15 14.2z.15 14.30.15 14.31.15 14.32.15 14.33.15 " ++
  "14.34.15 14.35.15 14.36.15 14.37.15 14.38.15 14.39.15 14.3a.15 14.3b.15 14.3c.15 14.3d.15 " ++
  "14.3e.15 1-p:2p 1-p:2p 1c 10i:6qz.6qz.6qz.6qz 2w:1m.1m.1p 1p.1p 1p.1p.1p 2u:8gt.mw 84-1b:8q8 " ++
  "1d:8rl 2:h7 5tp hp 3=2:8rs 2:gh hd gg gi 2:8s3 3:8s6 7:2y 3a 1-1:fz 1=1d:8sh 9=1:8vg 5:8vn " ++
  "3h:8yp 8g:lal 2c:vj3 d:feo ffs fg6 fgf fh5 fid fik fj4 fju g1r g2t g2z g3m g46 g4r g68 g6t g74 " ++
  "gbf ge1 get gey gfs gg1 ggs gh5 ghu gja gjs gkj h5j h7j hkb hky hl6 hlh hlz ho3 i1c i2o i60 " ++
  "i6n i76 i7s i9a i9d ijf ijp ik1 ike inm inu inz ir8 iri irv is3 its iu9 iur iwz jd4 jee jez " ++
  "jzj jzo k1z k2f k2s k3d k4g k4l kc0 kco kdk l5s l7m l89 l9v laj las laz lcf lck ldg m7f mju " ++
  "mk6 mkb mkf mkn ml5 ml7 mng mtg mtl n30 n3a n4o n4v n54 n5c n7v n82 nee nel nfy ngf nhq nob " ++
  "noi noz ny2 o1k o1q o6s o97 oah okz ooo p4m p5d p6y p8d pa9 pak paq pbn pdr pe1 pnn pnu po3 " ++
  "poc pos pp7 ppb pri prm prs qj1 qjv qww qx8 qxv r5q r63 r82 r9c rp3 rpi rpx rqw rrx rxg rxs " ++
  "rzn s6j s7e sd7 sds sdx sk1 sp5 ssm sss ssx tiv tj4 tng trq trt tt4 tw1 twe twi twp tzf u0d " ++
  "u0j u0x u5k u6z u73 uc6 uc9 ucs ujs ul4 ulb un9 unj unm unw uoq uzp vat vb3 vc5 vcr vcz vd9 " ++
  "vdd veh vel vf2 vf7 vfk vgb vgq vgy vil vj0 vj4 17:w 2:1a 1g:9hu 2:gg1 1-1:gg4 2p:w.9ll w.9lm " ++
  "3:9l4.9l6 2o:9mb.9mw 1e-1:3cw 3hm 3cy 1-1:3ho 1-2:3cz 1-5:3hs 3dm 1-2:3d2 3dt 1-9:3d5 1-k:3fl " ++
  "2-1:3dg 1-1:3if 3ik 3im 3ir 3iv 3ix 3do 3j1 3j3 1-1:3dp 3ds 1-1:3du 3dz 3e1 1-4:3e3 3ea 3ee " ++
  "3eo 3ev 3f0 1-1:3jl 1-2:3fb 1-1:3gk 3go 1-1:3gx 3h0 3ha 3hd 4:feo fik fex h5n fey ffx fez n5e " ++
  "fh5 ffd fep hm1 h80 fju 2p:14.3cw.15 14.3cy.15 14.3cz.15 14.3d1.15 14.3d2.15 14.3d3.15 " ++
  "14.3d5.15 14.3d7.15 14.3d8.15 14.3da.15 14.3db.15 14.3dc.15 14.3dd.15 14.3de.15 14.xz4.15 " ++
  "14.yvs.15 14.zc4.15 14.108s.15 14.10p4.15 14.115g.15 14.1224.15 14.12ys.15 14.13f4.15 " ++
  "14.14bs.15 14.14s4.15 14.158g.15 14.15os.15 14.1654.15 14.13p8.15 14.1350.13ic.15 " ++
  "14.1350.16f8.15 2:14.feo.15 14.fik.15 14.fex.15 14.h5n.15 14.fis.15 14.g31.15 14.fer.15 " ++
  "14.g2z.15 14.fh9.15 14.gg1.15 14.kco.15 14.m7f.15 14.ldg.15 14.kdk.15 14.ssx.15 14.h7j.15 " ++
  "14.k4l.15 14.kkq.15 14.kcp.15 14.ny6.15 14.glp.15 14.mm1.15 14.rs1.15 14.nz1.15 14.gc4.15 " ++
  "14.fkz.15 14.gos.15 14.i1y.15 14.nhf.15 14.flt.15 14.rt3.15 14.ggk.15 14.nzh.15 14.fm9.15 " ++
  "14.pnu.15 14.po3.15 gun inw k1z oen 9:34.38.2t 1e.1d 1e.1e 1e.1f 1e.1g 1e.1h 1e.1i 1e.1j 1e.1k " ++
  "1e.1l 1f.1c 1f.1d 1f.1e 1f.1f 1f.1g 1f.1h 3cw 1-1:3cy 1-2:3d1 3d5 1-1:3d7 1-4:3da xz4 yvs zc4 " ++
  "108s 10p4 115g 1224 12ys 13f4 14bs 14s4 158g 15os 1654 14c8.y5c 13p8.13dk 138w 2:feo fik fex " ++
  "h5n fis g31 fer g2z fh9 gg1 kco m7f ldg kdk ssx h7j k4l kkq kcp ny6 glp mm1 rs1 nz1 gc4 o2g " ++
  "n5j ho3 six g16 ghc lig u11 fm9 g49 l7n fey ffx fez ijq gkz gfv i3b i1y nhf flt rt3 ggk hlo " ++
  "1f.1i 1f.1j 1f.1k 1f.1l 1g.1c 1g.1d 1g.1e 1g.1f 1g.1g 1g.1h 1g.1i 1g.1j 1g.1k 1g.1l 1h.1c " ++
  "1d.kco 1e.kco 1f.kco 1g.kco 1h.kco 1i.kco 1j.kco 1k.kco 1l.kco 1d.1c.kco 1d.1d.kco 1d.1e.kco " ++
  "2w.2v 2t.36.2v 2t.3a 30.38.2s 9lu 9lw 9ly 9m0 1-1:9m2 9m5 9m7 9m9 9mb 9md 9mf 9mh 9mj 9ml 9mn " ++
  "9mp 9ms 9mu 9mw 1-5:9my 9n6 9n9 9nc 9nf 1-4:9ni 9no 9nq 1-5:9ns 1-3:9nz fl0.gp8 " ++
  "9lu.9n5.9oc.9mw 9lu.9nv.9n9.9lt 9lu.9o3.9ne.9lu 9lu.9oc.9nv 9lw.9mz.9o3.9m8 9lw.9o3.9mp " ++
  "9ly.9m1.9o3 9m0.9mh.9m7.9oc.9mx 9m0.9oc.9m3.9oc 9m2.9o3.9mh 9m2.9oc.9nk 9m3.9lw.9nu " ++
  "9m3.9nt.9mr.9mw 9m3.9nx.9nu.9oc 9m4.9nx.9o3 9m4.9o3.9ni 9m6.9m4 9m6.9mz.9oc 9m5.9np.9nu.9oc " ++
  "9m6.9nv.9mo.9oc 9m5.9nx 9m5.9nx.9m8.9nt.9nk 9m5.9nx.9nl.9oc.9mw.9nv 9m5.9nx.9nz.9mr.9mw " ++
  "9m8.9nt.9nk 9m8.9nt.9nk.9mw.9o3 9m7.9nv.9mk.9lw.9nx 9m7.9nx.9oc.9n1 9m9.9oc.9mh 9mb.9nv.9my " ++
  "9mb.9oc.9nh 9md.9lw.9m7.9nv 9md.9o3.9mp.9oc.9nk 9mf.9nu.9o3.9m8 9mj.9o3.9mp 9mj.9o3.9mw " ++
  "9mo.9oc.9mh 9mv.9mf 9mx.9nv 9mw.9o3 9my.9n2 9n2.9mr.9mw 9n3.9lw.9ms 9n5.9oc.9mj.9o3.9mw " ++
  "9n5.9oc.9ms 9n4.9oc.9nw.9nv 9n8.9lu.9mh.9mw.9nv 9n8.9m7.9nv 9n8.9mb 9n7.9nv " ++
  "9n9.9lt.9nt.9mr.9mx 9n9.9lv.9oc.9mw 9na.9mr.9mf.9lz.9nv 9n9.9nt.9o3 9nc.9m7.9mn.9oc.9nv " ++
  "9ne.9ml 9ne.9mz.9n6 9nc.9nv.9ms 9ne.9o3.9mh 9ne.9oc.9mg 9nd.9oc.9mn 9nh.9lw.9o3.9mw " ++
  "9ng.9nv.9mw 9nf.9o3 9nh.9o3.9mx 9nf.9oc.9nv 9nf.9oc.9o3 9ni.9lw.9m7.9nx 9ni.9lw.9nv " ++
  "9ni.9mr.9n3 9ni.9nv.9m7 9ni.9o3.9mf.9nr.9o3 9nj.9m7.9nx.9o3 9nj.9nu 9nj.9nu.9n4.9oc.9nv " ++
  "9nl.9m4 9nl.9m4.9mw.9o3 9nl.9oc.9mw.9nv 9no.9oc.9mx 9no.9oc.9nv 9nq.9lu.9o3 9nu.9mr.9mw.9nv " ++
  "9nu.9nt 9nv.9n8.9oc 9nv.9oc.9na.9nv 9nw.9nk 9nw.9o3.9mw.9ma.9o3 9nz.9mr.9mw 1c.m9l 1d.m9l " ++
  "1e.m9l 1f.m9l 1g.m9l 1h.m9l 1i.m9l 1j.m9l 1k.m9l 1l.m9l 1d.1c.m9l 1d.1d.m9l 1d.1e.m9l " ++
  "1d.1f.m9l 1d.1g.m9l 1d.1h.m9l 1d.1i.m9l 1d.1j.m9l 1d.1k.m9l 1d.1l.m9l 1e.1c.m9l 1e.1d.m9l " ++
  "1e.1e.m9l 1e.1f.m9l 1e.1g.m9l 2w.34.2p 2s.2p 2p.39 2q.2p.36 33.3a 34.2r 2s.31 2s.31.1e " ++
  "2s.31.1f 2x.39 inn.jdc k6l.gp8 hlz.l7n k5q.lh7 kkq.irz.fmi.ny6 34.2p 32.2p qk.2p 31.2p 2z.2p " ++
  "2z.2q 31.2q 2v.2q 2r.2p.30 2z.2r.2p.30 34.2u 32.2u qk.2u qk.2v 31.2v 2z.2v 2w.3e 2z.2w.3e " ++
  "31.2w.3e 2v.2w.3e 38.2w.3e qk.30 31.30 2s.30 2z.30 2u.31 32.31 qk.31 31.31 2r.31 2z.31 " ++
  "31.31.1e 2r.31.1e 31.1e 2z.31.1e 31.31.1f 2r.31.1f 31.1f 2z.31.1f 31.6qd.37 31.6qd.37.1e 34.2p " ++
  "2z.34.2p 31.34.2p 2v.34.2p 36.2p.2s 36.2p.2s.6qd.37 36.2p.2s.6qd.37.1e 34.37 32.37 qk.37 31.37 " ++
  "34.3a 32.3a qk.3a 31.3a 2z.3a 31.3a 34.3b 32.3b qk.3b 31.3b 2z.3b 31.3b 2z.qx 31.qx 2:2q.35 " ++
  "2r.2r 2r.2s 2r.6qd.2z.2v 2:2s.2q 2v.3d 2w.2p 2w.34 2x.32 2z.2z 2z.31 2z.38 30.31 30.32 " ++
  "30.33.2v 30.3c 31.2q 31.2x.30 31.33.30 34.2w 2:34.34.31 34.36 37.36 37.3a 3b.2q 3a.6qd.31 " ++
  "2p.6qd.31 1d.k4l 1e.k4l 1f.k4l 1g.k4l 1h.k4l 1i.k4l 1j.k4l 1k.k4l 1l.k4l 1d.1c.k4l 1d.1d.k4l " ++
  "1d.1e.k4l 1d.1f.k4l 1d.1g.k4l 1d.1h.k4l 1d.1i.k4l 1d.1j.k4l 1d.1k.k4l 1d.1l.k4l 1e.1c.k4l " ++
  "1e.1d.k4l 1e.1e.k4l 1e.1f.k4l 1e.1g.k4l 1e.1h.k4l 1e.1i.k4l 1e.1j.k4l 1e.1k.k4l 1e.1l.k4l " ++
  "1f.1c.k4l 1f.1d.k4l 2v.2p.30 mkh=m:wu9 k=d:ww1 2:ui uk 3p=6:x0j 4=u:x0z 2:x2n 9=1:x2y 2:5tl " ++
  "1=4:x33 5:x3g 2:h1 3=1:x3l 4=9:x3r 2:h2 gs gx h8 h6 2:im hz il xub 1=7:x4l 2:x3o hu 5u6 " ++
  "1=1:x54 2:h0 1=7:x59 2:bf l:37 2r 2u 35 x6e 3:87 9f o3:x0n xtj h7 xua a:i5 7-27:3vk f9d:rpk " ++
  "kc4 s7e rt4 lw1 fg2 gkl vj0 vj0 hn5 ssx gw7 hmw jcm ne1 p6t qin qt6 r20 sjz kxu ljv mah mvy " ++
  "q4d sq2 uep fia ghh l50 mjf qi5 v8e ifk m3v qfh r50 jih pnc qvz iq2 kd3 lm2 mpo slq fpi g53 " ++
  "gda jwk l3n mj4 nhj pa9 qh2 qjg s1b tv6 upb v7e nt8 nzz otc q15 t1g vb3 rfa hjz iro okg pdq " ++
  "mle nuy rsy ttj hjs i8y kyb lp6 lxr oq7 oxj tor gcy pe3 g64 g5o o4c ou6 q29 tpx rk0 jin kxu " ++
  "rge fg9 i5j iz6 mtj n74 gev nwb fr3 iw9 ff1 lho k1k opu gjn hge ni9 q4p re2 la2 sds lfs jjy " ++
  "put jog n6t fji g2x g5l kn5 oo7 prj rf6 ssv gdx gn6 ho3 ir0 k3p m4e nxm tkd ui2 vbr vda gbf " ++
  "kau l87 sbm ino j9s jcw jve lyb mdl n0p o22 ovo pdb s9y q9a sgz t3e g7r gbn gql ma0 r0i re2 " ++
  "iq1 iyd jnf l9q oji mt1 fl0 h6h i5j iii izg muq mzt p7e pc6 svo tti tvs u1k fpn o1a ss4 trs " ++
  "j4x fie fyy i5q i7z k2h kxu mha ncy q9o sjg vil k94 tny gax kfv kj7 lkx luk mx5 n6h nsb opc " ++
  "u3i g31 je6 tq0 fu3 ie1 lpm sa2 ivf j7o kk7 mtj tqe g89 glr i91 k5v kem ko8 lid mx2 naa p6h " ++
  "r0v r1d sss tsy gfz lve gm5 mhc n14 qgq tr7 uvr vbz kgn lor pns o97 obk olu mo0 m8p riw fk0 " ++
  "px2 g8q g7b ip2 jir onq i2t ljy kac saj qx8 tot r63 iqb g1s gxs 3:hga 2:k8k 3:g66 mqy ngq ny4 " ++
  "nz2 nz9 o0f tw6 on2 p8d 2:qhe 2:rg8 3:shk sn1 4:u7j u7w u94 v5g sm6 trr fqm fzb g25 gcp gdg " ++
  "ggh gwt gzq h2g hfk hig i90 i9a j2s j8o j9q jci k0f k4i k9d kn9 lmf lqy lya mem mjv mxu ntd " ++
  "ny6 nyh nyg nyo nyu nz1 1-1:o0d o5c o75 og0 ovo ow9 oxt p6a pad pnx prt prt q53 r2o r6e rgh " ++
  "ri1 rtf ruw sdy shk tsz u0v u2j j1x 36cu pp4 3:ffq g51 g2w fpc g1x g3k gcn ge2 gwt gut gwp gyq " ++
  "hga hir hms hn8 huq i08 iqa iqh iuh iwd j4o j7y j60 j9q j8g jci jec jpg jrw jte k0m k8k kd3 " ++
  "kd7 keu l89 la2 lkx lwb lvv lya m5a mem nmv mk5 mnj mqy n01 n46 n5n nbx nbz ngq nh7 nhw nka " ++
  "nk0 nv0 o8h og0 ol7 orf ovo p4u pad pxu q27 qrd r41 r5y r6e ren rg8 rez rgh rge rfx ri1 rka " ++
  "ruw sag sj6 srd sxi tq4 tsz tw6 tzv u0v u17 u2j umq vj0 313e 3138 33dh brx cns cop 39e1 3bgw " ++
  "3i6r vgj vim 13:2u.2u 2u.2x 2u.30 2u.2u.2x 2u.2u.30 37.38 37.38 d:12s.12u 12s.12d 12s.12j " ++
  "132.12u 12s.12l 6:15l.14k 2:16a.14n 15u 15c 1-1:15f 1-2:15n 160 162 17 161.14x 161.14y " ++
  "161.14s.14x 161.14s.14y 15c.14n 15c.14o 15c.14s 15d.14s 15e.14s 15f.14s 15g.14s 15h.14s " ++
  "15i.14s 2:15k.14s 15l.14s 15m.14s 15n.14s 15o.14s 2:15q.14s 2:15s.14s 15t.14s 2:15v.14s " ++
  "15w.14s 2:15y.14s 15z.14s 160.14s 161.14s 162.14s 15h.14p 15d.14v 15n.14v 15w.14v 15c.15o 19t " ++
  "19t 1a3 1a3 1a3 1a3 1a6 1a6 1a6 1a6 1a8 1a8 1a8 1a8 1a2 1a2 1a2 1a2 1a7 1a7 1a7 1a7 1a1 1a1 " ++
  "1a1 1a1 1b8 1b8 1b8 1b8 1ba 1ba 1ba 1ba 1ac 1ac 1ac 1ac 1ab 1ab 1ab 1ab 1ae 1ae 1ae 1-1:1ae " ++
  "1af 1af 1af 1al 1al 1ak 1ak 1am 1am 1ag 1ag 1aw 1aw 1ap 1ap 1bd 1bd 1bd 1bd 1bj 1bj 1bj 1bj " ++
  "1bn 1bn 1bn 1bn 1bl 1bl 1bl 1bl 1bu 1-1:1bu 1bv 1bv 1bv 1c0 1-1:1c0 1c1 1c1 1c1 1by 1by 1by " ++
  "1by 1ci 1-1:1ci 1cj y:1bh 1bh 1bh 1bh 1c7 1c7 1c6 1c6 1c8 1c8 1c7.19w 1cb 1cb 1c5 1c5 1c9 1c9 " ++
  "1cg 1cg 1cg 1cg 18p 18p 17q.17r 17q.17r 17q.1cl 17q.1cl 17q.18o 17q.18o 17q.1c7 17q.1c7 " ++
  "17q.1c6 17q.1c6 17q.1c8 17q.1c8 17q.1cg 17q.1cg 17q.1cg 17q.18p 17q.18p 17q.18p 1cc 1cc 1cc " ++
  "1cc 17q.17w 17q.17x 17q.18l 17q.18p 17q.18q 17s.17w 17s.17x 17s.17y 17s.18l 17s.18p 17s.18q " ++
  "17u.17w 17u.17x 17u.17y 17u.18l 17u.18p 17u.18q 17v.17w 17v.18l 17v.18p 17v.18q 17w.17x " ++
  "17w.18l 17x.17w 17x.18l 17y.17w 17y.17x 17y.18l 183.17w 183.17x 183.17y 183.18l 185.17x " ++
  "185.18l 186.17w 186.17x 186.17y 186.18l 187.17x 187.18l 188.18l 189.17w 189.18l 18a.17w " ++
  "18a.18l 18h.17w 18h.17x 18h.17y 18h.18l 18h.18p 18h.18q 18i.17x 18i.18l 18i.18p 18i.18q " ++
  "18j.17r 18j.17w 18j.17x 18j.17y 18j.18k 18j.18l 18j.18p 18j.18q 18k.17w 18k.17x 18k.17y " ++
  "18k.18l 18k.18p 18k.18q 18l.17w 18l.17x 18l.17y 18l.18l 18l.18p 18l.18q 18m.17w 18m.17x " ++
  "18m.17y 18m.18l 18m.18p 18m.18q 18n.17w 18n.18l 18n.18p 18n.18q 18q.17w 18q.17x 18q.17y " ++
  "18q.18l 18q.18p 18q.18q 180.19s 181.19s 18p.19s w.18s.18x w.18t.18x w.18u.18x w.18v.18x " ++
  "w.18w.18x w.18x.19s 17q.181 17q.182 17q.18l 17q.18m 17q.18p 17q.18q 17s.181 17s.182 17s.18l " ++
  "17s.18m 17s.18p 17s.18q 17u.181 17u.182 17u.18l 17u.18m 17u.18p 17u.18q 17v.181 17v.182 " ++
  "17v.18l 17v.18m 17v.18p 17v.18q 18h.18p 18h.18q 18i.18p 18i.18q 18j.17r 18j.18k 18j.18l " ++
  "18j.18p 18j.18q 18k.18l 18k.18p 18k.18q 18l.17r 18l.18l 18m.181 18m.182 18m.18l 18m.18m " ++
  "18m.18p 18m.18q 18p.19s 18q.181 18q.182 18q.18l 18q.18m 18q.18p 18q.18q 17q.17w 17q.17x " ++
  "17q.17y 17q.18l 17q.18n 17s.17w 17s.17x 17s.17y 17s.18l 17s.18n 17u.17w 17u.17x 17u.17y " ++
  "17u.18l 17u.18n 17v.18l 17w.17x 17w.18l 17x.17w 17x.18l 17y.17w 17y.18l 183.17w 183.17x " ++
  "183.17y 183.18l 185.17x 185.17y 185.18l 186.17w 186.17x 186.17y 186.18l 187.17x 188.18l " ++
  "189.17w 189.18l 18a.17w 18a.18l 18h.17w 18h.17x 18h.17y 18h.18l 18i.17x 18i.18l 18j.17w " ++
  "18j.17x 18j.17y 18j.18k 18j.18l 18k.17w 18k.17x 18k.17y 18k.18l 18k.18n 18l.17w 18l.17x " ++
  "18l.17y 18l.18l 18m.17w 18m.17x 18m.17y 18m.18l 18m.18n 18n.17w 18n.18l 18n.19s 18q.17w " ++
  "18q.17x 18q.17y 18q.18l 18q.18n 17q.18l 17q.18n 17s.18l 17s.18n 17u.18l 17u.18n 17v.18l " ++
  "17v.18n 183.18l 183.18n 184.18l 184.18n 18j.18k 18j.18l 18k.18l 18m.18l 18m.18n 18q.18l " ++
  "18q.18n 18g.18u.18x 18g.18v.18x 18g.18w.18x 187.18p 187.18q 189.18p 189.18q 18a.18p 18a.18q " ++
  "183.18p 183.18q 184.18p 184.18q 17x.18p 17x.18q 17w.18p 17w.18q 17y.18p 17y.18q 185.18p " ++
  "185.18q 186.18p 186.18q 184.17w 184.17x 184.17y 184.18l 184.181 183.181 185.181 186.181 " ++
  "187.18p 187.18q 189.18p 189.18q 18a.18p 18a.18q 183.18p 183.18q 184.18p 184.18q 17x.18p " ++
  "17x.18q 17w.18p 17w.18q 17y.18p 17y.18q 185.18p 185.18q 186.18p 186.18q 184.17w 184.17x " ++
  "184.17y 184.18l 184.181 183.181 185.181 186.181 184.17w 184.17x 184.17y 184.18l 183.18n " ++
  "184.18n 187.18l 183.17w 183.17x 183.17y 184.17w 184.17x 184.17y 187.18l 188.18l 17r.18r " ++
  "17r.18r j:17u.17w.18l 17u.17x.17w 17u.17x.17w 17u.17x.18l 17u.17y.18l 17u.18l.17w 17u.18l.17x " ++
  "17u.18l.17y 17w.18l.17x 17w.18l.17x 17x.18l.18q 17x.18l.18p 183.17x.17w 183.17w.17x " ++
  "183.17w.18p 183.18l.17x 183.18l.17x 183.18l.17w 183.18l.18l 183.18l.18l 185.17x.17x " ++
  "185.17x.17x 185.18l.18l 184.17x.18l 184.17x.18l 184.17w.18q 184.18l.17y 184.18l.17y " ++
  "184.18l.18l 184.18l.18l 186.17x.18p 186.17y.18l 186.17y.18l 187.18l.17x 187.18l.17x " ++
  "187.18l.18l 187.18l.18q 189.17w.18l 189.18l.18l 189.18l.18l 189.18l.18p 18a.18l.18l " ++
  "18a.18l.18q 18a.18l.18p 18h.17y.18l 18h.17y.18l 18i.18l.17x 18i.18l.18l 18k.17x.18l " ++
  "18k.17x.18q 18k.17x.18p 18k.17w.17w 18k.17w.17w 18k.17y.18l 18k.17y.18l 18k.18l.17x " ++
  "18k.18l.17x 18l.17x.17w 18l.17x.18l 18l.17x.18q 18l.17w.17x 18l.17w.18l 18l.17y.17w " ++
  "18l.17y.18l 3:18l.17w.17y 18n.18l.17w 18n.18l.18l 18m.17x.18l 18m.17x.18p 18m.17w.18l " ++
  "18m.17w.18l 18m.17w.18p 18m.18l.18q 18m.18l.18p 18q.18l.18l 18q.18l.18l 17s.17y.18q " ++
  "17u.17w.18q 17u.17w.18p 17u.17y.18q 17u.17y.18p 17u.18l.18q 17u.18l.18p 17w.18l.18q " ++
  "17w.17x.18p 17w.18l.18p 183.17y.18p 185.17x.18q 184.17x.18q 186.17x.18q 18k.17w.18q " ++
  "18k.18l.18q 18q.17x.18q 18q.17w.18q 18q.18l.18q 18l.18l.18q 18i.18l.18q 18m.17x.18q " ++
  "18i.18l.17x 18k.17x.18l 189.18l.18q 18j.18l.18q 18m.17w.17x 18l.17y.18q 18k.17w.18l " ++
  "18j.18l.18l 18k.17w.18l 18m.17w.17x 17w.17x.18q 17x.17w.18q 18l.17w.18q 18h.18l.18q " ++
  "17s.17x.18q 18j.18l.18l 189.17w.18l 185.18l.18l 183.17y.18q 18m.17w.18q 15:185.18k.1ci " ++
  "18i.18k.1ci 17r.18k.18k.18n 17r.18j.17s.181 18l.17x.18l.17z 185.18k.189.18l 181.183.18o.18k " ++
  "189.18k.18q.18n 18o.183.18k.18l 185.18k.18p " ++
  "185.18k.18p.w.17r.18k.18k.18n.w.189.18k.18q.18n.w.18o.183.18k.18l " ++
  "17w.18k.w.17w.18k.17r.18k.18n 181.1cc.17r.18k k:18 9hd 2-1:1m x 1r 1-1:9hy p:6c4 6c3 2n 2n " ++
  "1-1:14 3f 3h 1-1:9hw 1-1:9hs 1-1:9hm 1-1:9hk 1-3:9ho 3:2j 2l w.lh w.lh w.lh w.lh 2n 2n 2n 18 " ++
  "9hd 3:1n 1m 1r x 6c4 1-1:14 3f 3h 1-1:9hw z 12 1-1:16 19 1o 1q 1p 2:2k 1-1:10 1s 5:w.18r " ++
  "18g.18r w.18s 2:w.18t 2:w.18u 18g.18u w.18v 18g.18v w.18w 18g.18w w.18x 18g.18x w.18y 18g.18y " ++
  "1-1:17l 1-1:17m 1-1:17n 1-1:17o 1-1:17p 17q 17q 1-1:17q 1-1:17r 17s 17s 1-1:17s 1-1:17t 17u " ++
  "17u 1-1:17u 17v 17v 1-1:17v 17w 17w 1-1:17w 17x 17x 1-1:17x 17y 17y 1-1:17y 1-1:17z 1-1:180 " ++
  "1-1:181 1-1:182 183 183 1-1:183 184 184 1-1:184 185 185 1-1:185 186 186 1-1:186 187 187 " ++
  "1-1:187 188 188 1-1:188 189 189 1-1:189 18a 18a 18a 18h 18h 18h 1-1:18h 18i 18i 1-1:18i 18j " ++
  "18j 1-1:18j 18k 18k 1-1:18k 18l 18l 1-1:18l 18m 18m 1-1:18m 18n 18n 1-1:18n 1-1:18o 1-1:18p " ++
  "18q 18q 18q 18k.17m 18k.17m 18k.17n 18k.17n 18k.17p 18k.17p 18k.17r 18k.17r 5-v:x 1-p:2p " ++
  "1-z:2j 1-1:879 1a 1-1:9ho 9hd 9ob 9o2 9lt 9lv 9lx 9lz 9m1 9nn 9np 9nr 9mr 9oc 9lu 9lw 9ly 9m0 " ++
  "1-1:9m2 9m5 9m7 9m9 9mb 9md 9mf 9mh 9mj 9ml 9mn 9mp 9ms 9mu 9mw 1-5:9my 9n6 9n9 9nc 9nf " ++
  "1-4:9ni 9no 9nq 1-5:9ns 9nz 9o3 1-1:9ll 2-1:3cw 3hm 3cy 1-1:3ho 1-2:3cz 1-5:3hs 3dm 1-2:3d2 " ++
  "3dt 1-9:3d5 4-5:3fl 3-5:3fr 3-5:3fx 3-2:3g3 4-1:4i 4s w.lg 4m 4l 6g9 2:7b6 1-3:6mo 7fk 7gr " ++
  "sy-13:1fe0 3t-z:1fiw 4d-a:1fo7 2-e:1foj 2-6:1foz 2-1:1fp7 do-1:k0 6e ih gj 2:ir xuu it is " ++
  "1-1:gm 5u9 go gu ix h0 gy gw ij 87 ik h3 hw 1-1:iy h8 2mmc x3i ha 2mmd i6 2mme 6w 1-1:hi 35 hm " ++
  "2mmg 1-1:hp hs iw iu xuv iv i0 8s1 2:i7 1-1:ip ig 1-2:cg 2mmi 2mn2 xy-1e:1h34 4e-l:1h80 " ++
  "27v-v:1jgg gw1-v:20dc 1t-o:20fv ila-p:2p 1-9:1c v9:2jx3.2jxh 2jx4.2jxh 2jx4.2jxh.2jxq " ++
  "2jx4.2jxh.2jxr 2jx4.2jxh.2jxs 2jx4.2jxh.2jxt 2jx4.2jxh.2jxu 2f:2jzt.2jxh 2jzu.2jxh " ++
  "2jzt.2jxh.2jxq 2jzu.2jxh.2jxq 2jzt.2jxh.2jxr 2jzu.2jxh.2jxr g0-p:2p 1-p:2p 1-p:2p 1-6:2p " ++
  "2-h:2x 1-p:2p 1-p:2p 1=1:2p 2s 3:2v 3-1:2y 3-3:32 2-7:37 1-3:2p 2=1:2u 1-5:2x 2-a:34 1-p:2p " ++
  "1-p:2p 1-1:2p 2-3:2s 3-7:2y 2-6:37 2-p:2p 1-1:2p 2-3:2s 2-4:2x 2:33 4-6:37 2-p:2p 1-p:2p " ++
  "1-p:2p 1-p:2p 1-p:2p 1-p:2p 1-p:2p 1-p:2p 1-p:2p 1-p:2p 1-p:2p 1-p:2p 1-p:2p 8h fr 3-g:q9 qg " ++
  "1-6:qr 6pz 1-g:q9 qr 1-6:qr 6pu qd qg qi qu qp qo 1-g:q9 qg 1-6:qr 6pz 1-g:q9 qr 1-6:qr 6pu qd " ++
  "qg qi qu qp qo 1-g:q9 qg 1-6:qr 6pz 1-g:q9 qr 1-6:qr 6pu qd qg qi qu qp qo 1-g:q9 qg 1-6:qr " ++
  "6pz 1-g:q9 qr 1-6:qr 6pu qd qg qi qu qp qo 1-g:q9 qg 1-6:qr 6pz 1-g:q9 qr 1-6:qr 6pu qd qg qi " ++
  "qu qp qo rh rh 3-9:1c 1-9:1c 1-9:1c 1-9:1c 1-9:1c 1m9-8:ts 1-2:u2 1-a:u6 uj 1-1:ul ww9 yh uu " ++
  "uw yx xb y7 1-8:ts 1-1:u2 1-1:u6 u9 1-5:ub 1-1:ui wh uu ut v3 x7 wup xd 1oz-x:2oma yn-1:17r " ++
  "17w 17z 2:18o 182 17x 187 18q 1-3:18j 183 189 18h 185 18i 181 184 1-1:17u 17y 180 186 188 18a " ++
  "19q 1bu 1b5 19r 2:17s 17w 2:18n 3:17x 2:18q 1-3:18j 183 189 18h 185 18i 2:184 1-1:17u 17y " ++
  "2:186 2:18a 7:17w 5:17x 2:18q 2=1:18k 183 189 2:185 18i 2:184 3:17y 2:186 2:18a 2:1bu 2:19r " ++
  "2:17s 17w 2:18n 3:17x 187 18q 1=1:18j 18m 183 189 18h 185 18i 2:184 1-1:17u 17y 2:186 188 18a " ++
  "19q 2:1b5 2-1:17r 17w 17z 1-1:18n 182 17x 187 18q 2-2:18k 183 189 18h 185 18i 181 184 1-1:17u " ++
  "17y 180 186 188 18a 6:17s 17w 17z 2:18o 182 17x 187 18q 2-2:18k 183 189 18h 185 18i 181 184 " ++
  "1-1:17u 17y 180 186 188 18a g6:1c.18 1d.18 1e.18 1f.18 1g.18 1h.18 1i.18 1j.18 1k.18 1l.18 " ++
  "6:14.2p.15 14.2q.15 14.2r.15 14.2s.15 14.2t.15 14.2u.15 14.2v.15 14.2w.15 14.2x.15 14.2y.15 " ++
  "14.2z.15 14.30.15 14.31.15 14.32.15 14.33.15 14.34.15 14.35.15 14.36.15 14.37.15 14.38.15 " ++
  "14.39.15 14.3a.15 14.3b.15 14.3c.15 14.3d.15 14.3e.15 9hw.37.9hx 2r 36 2r.2s 3b.3e 2-p:2p " ++
  "2w.3a 31.3a 37.2s 37.37 34.34.3a 3b.2r r:31.2r 31.2s 31.36 10:2s.2y 34:9kr.9jf 9mb.9mb 9md " ++
  "e:jez i1j gjw 9mv fik hlm r8j hm1 fj8 k68 mch k2h g99 ivg g3x k34 g7x oqq n4v rs9 hkg gmx lxw " ++
  "jh1 jmd feo fex si2 ijq ffx gkz jk7 rxs jf7 o01 o6y glk lts kcp kco n5f gaa gxi sp9 " ++
  "5:9hw.kdo.9hx 9hw.fex.9hx 9hw.fik.9hx 9hw.i2x.9hx 9hw.m9l.9hx 9hw.jf7.9hx 9hw.nh3.9hx " ++
  "9hw.gd9.9hx 9hw.k0n.9hx 8:ivr gkv 1wf-9:1c 1ds7:fgd fg8 fgh 2tcy fog fqm fqz fsy fwa fx5 fzb " ++
  "fyn ae6 2ud6 g25 g2c g2s g3b 2u58 aex g2v g3x 2u6j g47 g4k fkc g4s g51 3ly7 g6t g77 afz g8r " ++
  "g92 gaa gaf ahh gcn gcp gdg ge2 1-1:ged gev gg9 ggh ggq ghf ghp ghr ghr ghr 2v58 m7k gju gkf " ++
  "2vdv gkr gkx gli gpq gmw gnc go8 gpu gs6 gsw gur gv7 gw4 gw4 gwp gx7 gxf gxu h7a gzq h7b h1t " ++
  "h2s g7b hke hce hdg he5 haj hf6 hf5 hik 2x9g hki hkn hl2 hlm hlu hnm 2xm0 2xnu hrg hsr ht3 hqw " ++
  "huu aum av0 hzc i0u i0u 2y88 i4j i54 i5j i5v 2yhk i67 i6e itv i76 ayp i8w i9a ibk ia5 2z1g if7 " ++
  "2z1i ige igb igs 1-1:ijl b3j ikd ilk im5 ind b4y 2zr7 b5o ipc ipf ipi iq2 3pg2 iri 3035 3035 " ++
  "poh isi isi b7r 335k 3cgq iua iuj b8j ivu ix9 ixj iyh j29 bay ba4 j2s 30t0 j47 j7s j7w j7y j7w " ++
  "j96 j9q jaq jac jan jby jci jcm jdc jdn jfh jht jis jm8 31n0 jlp jjw jmw jnn jqc 31td js2 jph " ++
  "jop bhq ju1 jum jvh juf bjg k0f k18 32mi k4j kc8 k7d bo9 k9d bns bms g42 g45 kcg k9o pf1 deh " ++
  "kd3 kd7 kdd kf2 ker 33cz bpl kje kg5 klu kn9 33hp kni kkf kr8 brx ksi kv7 kx6 l2g 33xf l3v bvc " ++
  "l5t 34br l78 bwu l82 l9b 1-1:la2 34p9 2yvf 34sa le6 354s lhb lhp lev ljq lku lmf lkx lm1 lmg " ++
  "lmt 357i lkk lrj lta c37 lvv lvr 35jl lq1 m0e 35ni 35ou m2u m61 m5a m57 c5y m6i m7x m7r m99 " ++
  "2u5h mdh 368z mfw 36i3 mjs mk5 mkw 36yw mm8 mmt 3779 37dg mt6 mtn cdo mud ce0 ce0 myv mzg n01 " ++
  "n0l n2i cgr n50 386u n5q 389e n74 2zrz nbk 38v5 38vs 38zo cn0 cnc nhw 394j 394i 395l 396b " ++
  "1-1:nj2 nj3 nka cop nm3 cp2 cra 39r1 nri nt8 nv0 ctf 3a5i nyu 3a8q 3a9x o0f o2z cvj o5c o5m " ++
  "o5r 3at8 3b1j 3b1j oa6 d1e 3b8r og6 og9 d2f 3beo onm d5s oo8 oo3 oow 3c06 orn d8h ouf ow2 oxx " ++
  "d9w 3ciw 3cjr dax 3cnt p6i 3cqm p79 pa2 pad 3d22 3d43 pcw 3d7s pdc 33a7 ded pf6 phf dfv pj2 " ++
  "hx1 3dlz 3dmd 33bn 33bw poh pok sda dij psh psb pst gc3 ptd ptf ptp puu 3ebg put pwd pyb q0d " ++
  "pwj q0t q1z q53 pxv q16 q18 q1o 3eie 3eqz 3emt dnv q9d q9f qae 3g0a qck 3f3g dp9 dpd 3f75 3ff6 " ++
  "dpn qj4 qjg qjr qjt qll qko qoe qn6 qrd qp4 qqz qrq dsn qu9 qv5 dtl qxs qxv 3giv r13 r1a dv9 " ++
  "r22 aez 3gz2 3h46 dz2 dzb rds rfx rka rpx 3hrc rsb rsx rvf rxz 3i9b 2upw s0b rzw s1c 2uvy s7o " ++
  "sag 3jki 3jl9 sk4 smp snl 3ju6 snv svs 1-1:t07 sxo t89 t91 3ksa tjf ej9 tkn 3l2v eli ts3 iia " ++
  "tur 3ltx 3lzu epa epi u00 3mdm er6 3mhi u17 u17 u21 3mpi u76 eur u95 ucn ude uf2 ez2 3nsg umq " ++
  "uv4 v0d f66 f71 v3b 3owe f7c 3oxx 3p5a 3p8x vcr f9y veh vem vet vf3 vfa vgb 3pxc"

def kept : Array (Nat × Nat) := Ranges.ofTable keptTable

def dropped : Array (Nat × Nat) := Ranges.ofTable droppedTable

structure Replacement where
  first : Nat
  last : Nat
  /-- The distance from each of them to the next. -/
  step : Nat
  /-- What stands for the first. -/
  target : List Nat

/-- One item of the table, read after the one that ended at `last`. -/
def Replacement.ofItem (last : Nat) (text : List Char) : Replacement :=
  let head := if text.contains ':' then text.takeWhile (· != ':') else ['1']
  let target := Ranges.numbers (if text.contains ':' then (text.dropWhile (· != ':')).drop 1 else text)
  let isMark (c : Char) : Bool := c = '-' || c = '='
  let first := last + Ranges.base36 (head.takeWhile (!isMark ·))
  let more := Ranges.base36 ((head.dropWhile (!isMark ·)).drop 1)
  let step := if head.contains '=' then 2 else 1
  ⟨first, first + more * step, step, target⟩

/-- What stands for a character, if it is one of these. -/
def Replacement.result? (group : Replacement) (code : Nat) : Option (List Char) :=
  if group.first ≤ code ∧ code ≤ group.last ∧ (code - group.first) % group.step = 0 then
    some (group.target.map fun place => Char.ofNat (place + (code - group.first)))
  else none

def replacements : Array Replacement :=
  ((Ranges.words replacedTable).foldl (fun (groups, last) word =>
    let group := Replacement.ofItem last word
    (groups.push group, group.last)) ((#[] : Array Replacement), 0)).1

def isKept (c : Char) : Bool := Ranges.holds kept c.toNat

/-- What a character becomes, none when it is refused. -/
def map? (c : Char) : Option (List Char) :=
  if isKept c then some [c]
  else if Ranges.holds dropped c.toNat then some []
  else replacements.findSome? (·.result? c.toNat)

end ScriptSandbox.Url.Idna
