import ScriptSandbox.Text.Ranges

/-!
# Composing characters

A base character and the marks on it can be written as one character or apart. `compose` brings a
text that was mapped into the one form of all its spellings: taken apart, the marks on a base in the
order of their classes, and put together again. A mark joins its base unless one of the same class
stands between.
-/
namespace ScriptSandbox.Url.Idna

/-- The classes of marks: an item is a range and, behind the colon, the class of its characters. -/
def classTable : String :=
  "lc-k:6e 1:6g 1-3:64 1:6g 1:60 1-4:64 1-1:5m 1-3:64 1-1:5m 1-a:64 1-4:1 1-3:64 1-7:6e 1:6o 1:6e " ++
  "1-2:64 1-2:6e 1-1:64 2-2:6e 1-3:64 1:6e 1:6g 1-1:64 1:6e 1:6h 1-1:6i 1:6h 1-1:6i 1:6h 1-c:6e " ++
  "7o-4:6e 7e:64 1-3:6e 1:64 1-2:6e 1:66 1:64 1-5:6e 1-5:64 1-1:6e 1:64 1-1:6e 1:66 1:6c 1:6e 1:a " ++
  "1:b 1:c 1:d 1:e 1:f 1:g 1:h 1:i 1-1:j 1:k 1:l 1:m 2:n 2:o 1:p 2:6e 1:64 2:i 21-7:6e 1:u 1:v " ++
  "1:w 1d:r 1:s 1:t 1:u 1:v 1:w 1:x 1:y 1-1:6e 1-1:64 1-4:6e 1:64 1-1:6e 1:64 h:z 2u-6:6e 3-3:6e " ++
  "1:64 1:6e 3-1:6e 2:64 1-1:6e 1:64 10:10 v:6e 1:64 1-1:6e 1:64 1-1:6e 1-2:64 1:6e 1-1:64 1:6e " ++
  "1:64 1-2:6e 1:64 1:6e 1:64 1:6e 1:64 1:6e 1:64 1-1:6e 4h-6:6e 1:64 1:6e a:64 p-3:6e 2-8:6e " ++
  "2-2:6e 2-4:6e 18-2:64 1o-1:6e 1-2:64 1-3:6e 17-4:6e 1-4:64 1-d:6e 2:64 1-1:6e 1:64 1-1:6e 1:64 " ++
  "1-2:6e 1-2:64 1:r 1:s 1:t 1-2:6e 1:64 1-1:6e 1-1:64 1-4:6e 1p:7 h:9 4:6e 1:64 1-1:6e 2w:7 h:9 " ++
  "1d:6e 1q:7 h:9 33:7 h:9 33:7 h:9 3k:9 33:7 h:9 8:2c 1:2j 2u:7 h:9 32-1:9 h:9 3h:9 32-1:2v 1:9 " ++
  "e-3:2z 31-1:3a 1:9 e-3:3e 25-1:64 s:64 2:64 2:60 1k:3l 1:3m 2:3o 6-3:3m 3:3m 2-1:6e 1:9 2-1:6e " ++
  "1r:64 35:7 2-1:9 2b:64 k0-2:6e qd-1:9 v:9 4e:9 b:6e 5o:6c 40:66 1:6e 1:64 64:6e 1:64 20:9 " ++
  "l-7:6e 3:64 1d-4:6e 1-5:64 1-1:6e 1:64 2-1:64 1-1:6e 1-1:64 1-4:6e 1:64 1-h:6e 1:64 3-5:6e " ++
  "1:64 1-3:6e 1:6i 21:7 g:9 13:6e 1:64 1-6:6e 1j-1:9 1n:7 c-1:9 1w:7 49-2:6e 2:1 1-4:64 1-1:6e " ++
  "1-3:64 1:6e 2-6:1 5:64 7:6e 4-1:6e 5j-1:6e 1:64 1-6:6e 1:64 1-1:6e 1:6i 1:5y 1:64 1:5m 1-10:6e " ++
  "1:6g 1-1:6c 1:64 1:62 1:6e 1:6h 1:64 1:6e 1:64 k1-1:6e 1-1:1 1-3:6e 1-2:1 1-1:6e 5:6e 4-1:1 " ++
  "1:6e 1:64 1:6e 1-1:1 1-3:64 1:6e 2db-2:6e 3y:9 2p-v:6e ff:62 1:6c 1:6g 1:66 1-1:68 2y-1:8 " ++
  "n9x:6e 5-9:6e x-1:6e 29-1:6e 7p:9 12:9 48:9 s-h:6e 1m-2:64 12:9 2o:7 d:9 6o:6e 2-1:6e 1:64 " ++
  "3-1:6e 6-1:6e 2:6e 1h:9 6v:9 fn5:q le-6:6e 1-6:64 1-1:6e r2:64 6b:64 46-4:6e 1ar:64 2:6e 15:6e " ++
  "1:1 1:64 5:9 4m:6e 1:64 fy-3:6e 1u-4:6e 8u-1:6e 26-1:64 2-2:64 1z-1:64 1-2:6e 1:64 1:6e 1-3:64 " ++
  "1e:6e 1:64 1:6e 1:64 5d:9 16:9 f:9 1m:9 1:7 1y-2:6e 1d-1:9 1r:7 25:9 a:7 2z:9 1:7 4z:7 1:9 " ++
  "29-1:7 h:9 p-6:6e 4-4:6e 2i-2:9 36:9 4:7 o:6e 2s:9 1:7 70:9 1:7 3j:9 3b:9 1:7 38:9 7i:9 1:7 " ++
  "77-1:9 5:7 4d:9 2c:9 j:9 2a:9 bq:9 77:7 2-1:9 2a:9 bu-1:9 d0t:9 1xd-4:1 1o-6:6e xm-1:6 f59:1 " ++
  "43r-1:60 1-2:1 4:6a 1-4:60 9-7:64 3-4:6e 1-1:64 v-3:6e 45-2:6e 2po-6:6e 2-g:6e 3-6:6e 2-1:6e " ++
  "2-4:6e 2t:6e 4h-6:6e ag:6e 1q-3:6e e5-1:6g 1:64 1:6e 73:6e 1:64 6s:6e 3:6e 8-1:6e 6:6e d7-6:64 " ++
  "32-5:6e 1:7"

/-- The characters that can be taken apart, with their parts. -/
def partsTable : String :=
  "68:2p.lc 1:2p.ld 1:2p.le 1:2p.lf 1:2p.lk 1:2p.lm 2:2r.mf 1:2t.lc 1:2t.ld 1:2t.le 1:2t.lk " ++
  "1:2x.lc 1:2x.ld 1:2x.le 1:2x.lk 2:32.lf 1:33.lc 1:33.ld 1:33.le 1:33.lf 1:33.lk 3:39.lc " ++
  "1:39.ld 1:39.le 1:39.lk 1:3d.ld 2:3d.lk 2:2p.lg 2:2p.li 2:2p.mg 2:2r.ld 2:2r.le 2:2r.lj " ++
  "2:2r.lo 2:2s.lo 4:2t.lg 2:2t.li 2:2t.lj 2:2t.mg 2:2t.lo 2:2v.le 2:2v.li 2:2v.lj 2:2v.mf " ++
  "2:2w.le 4:2x.lf 2:2x.lg 2:2x.li 2:2x.mg 6:2y.le 2:2z.mf 3:30.ld 2:30.mf 2:30.lo 6:32.ld " ++
  "2:32.mf 2:32.lo 5:33.lg 2:33.li 2:33.ln 4:36.ld 2:36.mf 2:36.lo 2:37.ld 2:37.le 2:37.mf " ++
  "2:37.lo 2:38.mf 2:38.lo 4:39.lf 2:39.lg 2:39.li 2:39.lm 2:39.ln 2:39.mg 2:3b.le 2:3d.le " ++
  "3:3e.ld 2:3e.lj 2:3e.lo z:33.m3 f:39.m3 u:2p.lo 2:2x.lo 2:33.lo 2:39.lo 2:39.lk.lg 2:39.lk.ld " ++
  "2:39.lk.lo 2:39.lk.lc 3:2p.lk.lg 2:2p.lj.lg 2:6e.lg 4:2v.lo 2:2z.lo 2:33.mg 2:33.mg.lg 2:ia.lo " ++
  "1:2y.lo 5:2v.ld 4:32.lc 2:2p.lm.ld 2:6e.ld 2:6w.ld 2:2p.lr 2:2p.lt 2:2t.lr 2:2t.lt 2:2x.lr " ++
  "2:2x.lt 2:33.lr 2:33.lt 2:36.lr 2:36.lt 2:39.lr 2:39.lt 2:37.me 2:38.me 4:2w.lo 8:2p.lj " ++
  "2:2t.mf 2:33.lk.lg 2:33.lf.lg 2:33.lj 2:33.lj.lg 2:3d.lg 9p:qh.lk.ld s:q9.ld 1:qd.ld 1:qf.ld " ++
  "1:qh.ld 1:qt.lk.ld q:qh.lk 1:qt.lk 1:qn.ld 1:qt.ld 1:qx.ld 2z:u0.li n:tx.lc 1:tx.lk 2:tv.ld " ++
  "4:uu.lk 5:u2.ld 1:u0.lc 1:ub.li p:vp.lr 23:ty.li f:ts.li 2:ts.lk 4:tx.li 4:yh.lk 2:ty.lk " ++
  "2:tz.lk 4:u0.lg 2:u0.lk 2:u6.lk 4:yx.lk 2:ul.lk 2:ub.lg 2:ub.lk 2:ub.ln 2:uf.lk 4:uj.lk " ++
  "89:17r.18z 1:17r.190 1:18o.190 1:17r.191 1:18q.190 4a:1cl.190 2:1c1.190 h:1ci.190 gm:1t4.1to " ++
  "8:1tc.1to 3:1tf.1to 47:1xj.1xa 1:1xj.1xz ak:287.28m 3:287.27y 1:287.28n 20:2aa.2c7 1i:2bq.2bi " ++
  "1:2br.2bi 1:2bq.2c7 3g:2fa.2fq 3c:2in.2j9 7:2iu.2j9 1:2iu.2ja 2:2iu.2iq 1:2iu.2iq.2j9 " ++
  "3j:2me.2m6 1:2mf.2m6 1:2me.2mv 3y:2qh.2q2 2:2qh.2q7 1:2qh.2q7.2q2 1:2qh.2qn g8:36t.372 " ++
  "25c:5c5.5dh 2:5c7.5dh 2:5c9.5dh 2:5cb.5dh 2:5cd.5dh 4:5ch.5dh 15:5dm.5dh 2:5do.5dh 3:5dq.5dh " ++
  "1:5dr.5dh 2:5du.5dh ji:2p.md 2:2q.lj 2:2q.mb 2:2q.mp 2:2r.mf.ld 2:2s.lj 2:2s.mb 2:2s.mp " ++
  "2:2s.mf 2:2s.ml 2:2t.lg.lc 2:2t.lg.ld 2:2t.ml 2:2t.mo 2:2t.mf.li 2:2u.lj 2:2v.lg 2:2w.lj " ++
  "2:2w.mb 2:2w.lk 2:2w.mf 2:2w.mm 2:2x.mo 2:2x.lk.ld 2:2z.ld 2:2z.mb 2:2z.mp 2:30.mb 2:30.mb.lg " ++
  "2:30.mp 2:30.ml 2:31.ld 2:31.lj 2:31.mb 2:32.lj 2:32.mb 2:32.mp 2:32.ml 2:33.lf.ld 2:33.lf.lk " ++
  "2:33.lg.lc 2:33.lg.ld 2:34.ld 2:34.lj 2:36.lj 2:36.mb 2:36.mb.lg 2:36.mp 2:37.lj 2:37.mb " ++
  "2:37.ld.lj 2:37.lo.lj 2:37.mb.lj 2:38.lj 2:38.mb 2:38.mp 2:38.ml 2:39.mc 2:39.mo 2:39.ml " ++
  "2:39.lf.ld 2:39.lg.lk 2:3a.lf 2:3a.mb 2:3b.lc 2:3b.ld 2:3b.lk 2:3b.lj 2:3b.mb 2:3c.lj 2:3c.lk " ++
  "2:3d.lj 2:3e.le 2:3e.mb 2:3e.mp 1:2w.mp 1:38.lk 1:3b.lm 1:3d.lm 8:2p.mb 2:2p.ll 2:2p.le.ld " ++
  "2:2p.le.lc 2:2p.le.ll 2:2p.le.lf 2:2p.mb.le 2:2p.li.ld 2:2p.li.lc 2:2p.li.ll 2:2p.li.lf " ++
  "2:2p.mb.li 2:2t.mb 2:2t.ll 2:2t.lf 2:2t.le.ld 2:2t.le.lc 2:2t.le.ll 2:2t.le.lf 2:2t.mb.le " ++
  "2:2x.ll 2:2x.mb 2:33.mb 2:33.ll 2:33.le.ld 2:33.le.lc 2:33.le.ll 2:33.le.lf 2:33.mb.le " ++
  "2:33.m3.ld 2:33.m3.lc 2:33.m3.ll 2:33.m3.lf 2:33.m3.mb 2:39.mb 2:39.ll 2:39.m3.ld 2:39.m3.lc " ++
  "2:39.m3.ll 2:39.m3.lf 2:39.m3.mb 2:3d.lc 2:3d.mb 2:3d.ll 2:3d.lf 7:q9.lv 1:q9.lw 1:q9.lv.lc " ++
  "1:q9.lw.lc 1:q9.lv.ld 1:q9.lw.ld 1:q9.lv.n6 1:q9.lw.n6 9:qd.lv 1:qd.lw 1:qd.lv.lc 1:qd.lw.lc " ++
  "1:qd.lv.ld 1:qd.lw.ld b:qf.lv 1:qf.lw 1:qf.lv.lc 1:qf.lw.lc 1:qf.lv.ld 1:qf.lw.ld 1:qf.lv.n6 " ++
  "1:qf.lw.n6 9:qh.lv 1:qh.lw 1:qh.lv.lc 1:qh.lw.lc 1:qh.lv.ld 1:qh.lw.ld 1:qh.lv.n6 1:qh.lw.n6 " ++
  "9:qn.lv 1:qn.lw 1:qn.lv.lc 1:qn.lw.lc 1:qn.lv.ld 1:qn.lw.ld b:qt.lv 1:qt.lw 1:qt.lv.lc " ++
  "1:qt.lw.lc 1:qt.lv.ld 1:qt.lw.ld 1:qt.lv.n6 1:qt.lw.n6 9:qx.lv 1:qx.lw 1:qx.lv.lc 1:qx.lw.lc " ++
  "1:qx.lv.ld 1:qx.lw.ld 1:qx.lv.n6 1:qx.lw.n6 9:q9.lc 2:qd.lc 2:qf.lc 2:qh.lc 2:qn.lc 2:qt.lc " ++
  "2:qx.lc 1g:q9.li 1:q9.lg 5:q9.n6 g:qf.n6 a:qh.li 1:qh.lg 1:qh.lk.lc 4:qh.n6 1:qh.lk.n6 9:qt.li " ++
  "1:qt.lg 1:qt.lk.lc 2:qp.lv 1:qp.lw 1:qt.n6 1:qt.lk.n6 f:qx.n6 bo:6mo.mw 1:6mq.mw j:6ms.mw " ++
  "v:6og.mw 1:6ok.mw 1:6oi.mw 1h:6pv.mw 5:6q0.mw 3:6q3.mw o:6qr.mw 2:6qt.mw r:6rg.mw 3:6rn.mw " ++
  "3:6rp.mw 2:6rs.mw n:1p.mw 2:6sh.mw b:6rx.mw 1:1o.mw 1:1q.mw 1:6sk.mw 1:6sl.mw 3:6sy.mw " ++
  "1:6sz.mw 3:6t2.mw 1:6t3.mw 7:6t6.mw 1:6t7.mw 3:6te.mw 1:6tf.mw 3:6ti.mw 1:6tj.mw z:6ua.mw " ++
  "1:6ug.mw 1:6uh.mw 1:6uj.mw 1d:6t8.mw 1:6t9.mw 1:6tt.mw 1:6tu.mw 7:6uq.mw 1:6ur.mw 1:6us.mw " ++
  "1:6ut.mw 2n3:9jf.9ll 2:9jh.9ll 2:9jj.9ll 2:9jl.9ll 2:9jn.9ll 2:9jp.9ll 2:9jr.9ll 2:9jt.9ll " ++
  "2:9jv.9ll 2:9jx.9ll 2:9jz.9ll 2:9k1.9ll 3:9k4.9ll 2:9k6.9ll 2:9k8.9ll 7:9kf.9ll 1:9kf.9lm " ++
  "2:9ki.9ll 1:9ki.9lm 2:9kl.9ll 1:9kl.9lm 2:9ko.9ll 1:9ko.9lm 2:9kr.9ll 1:9kr.9lm n:9ja.9ll " ++
  "a:9lp.9ll e:9m3.9ll 2:9m5.9ll 2:9m7.9ll 2:9m9.9ll 2:9mb.9ll 2:9md.9ll 2:9mf.9ll 2:9mh.9ll " ++
  "2:9mj.9ll 2:9ml.9ll 2:9mn.9ll 2:9mp.9ll 3:9ms.9ll 2:9mu.9ll 2:9mw.9ll 7:9n3.9ll 1:9n3.9lm " ++
  "2:9n6.9ll 1:9n6.9lm 2:9n9.9ll 1:9n9.9lm 2:9nc.9ll 1:9nc.9lm 2:9nf.9ll 1:9nf.9lm n:9ly.9ll " ++
  "3:9nz.9ll 1:9o0.9ll 1:9o1.9ll 1:9o2.9ll 4:9od.9ll 1617:1fpu.lj r:1fq2.lj 246:1huh.1hve " ++
  "2:1huj.1hve f:1hut.1hve 3n:1hyp.1hyf 1:1hyq.1hyf f0:1idj.1ida 1:1idj.1idz 1j:1if6.1ih5 " ++
  "2:1if8.1igr 9:1iff.1igy 3:1ifk.1ih5 1g:1igy.1igy 2:1igy.1igo 1:1igy.1ih5 6r:1int.1inu " ++
  "1:1int.1ink 2:1int.1inx 70:1iuw.1iun 1:1iux.1iun ot:1jjp.1jjk e7d:1xr2.1xr2 1:1xr2.1xrd " ++
  "1:1xr2.1xr3 1:1xrd.1xr3 1:1xr2.1xr4 1:1xr2.1xr2.1xr3 1:1xr2.1xrd.1xr3 1:1xr2.1xr2.1xr4 " ++
  "2f4:206f.206f 1:206b.206f 1:206b.206f.206f"

def classRanges : Array ((Nat × Nat) × Nat) :=
  ((Ranges.words classTable).foldl (fun (ranges, last) word =>
    let range := Ranges.item last (word.takeWhile (· != ':'))
    (ranges.push (range, Ranges.base36 ((word.dropWhile (· != ':')).drop 1)), range.2))
    ((#[] : Array ((Nat × Nat) × Nat)), 0)).1

def composites : Array (Nat × List Nat) :=
  ((Ranges.words partsTable).foldl (fun (entries, last) word =>
    let code := last + Ranges.base36 (word.takeWhile (· != ':'))
    (entries.push (code, Ranges.numbers ((word.dropWhile (· != ':')).drop 1)), code))
    ((#[] : Array (Nat × List Nat)), 0)).1

/-- The class of a character; zero for every character that is no mark. -/
def markClass (code : Nat) : Nat :=
  match classRanges.find? fun ((low, high), _) => low ≤ code && code ≤ high with
  | some (_, order) => order
  | none => 0

/-! ### Syllables

A Korean syllable is composed of a leading consonant, a vowel, and perhaps a trailing consonant. -/

def firstSyllable : Nat := 0xAC00

def syllableCount : Nat := 11172

def syllableParts? (code : Nat) : Option (List Nat) :=
  if firstSyllable ≤ code ∧ code < firstSyllable + syllableCount then
    let place := code - firstSyllable
    let trailing := place % 28
    some ([0x1100 + place / 588, 0x1161 + place % 588 / 28] ++
      if trailing = 0 then [] else [0x11A7 + trailing])
  else none

def syllable? (left right : Nat) : Option Nat :=
  if 0x1100 ≤ left ∧ left < 0x1113 ∧ 0x1161 ≤ right ∧ right < 0x1176 then
    some (firstSyllable + ((left - 0x1100) * 21 + (right - 0x1161)) * 28)
  else if firstSyllable ≤ left ∧ left < firstSyllable + syllableCount ∧ (left - firstSyllable) % 28 = 0 ∧
      0x11A8 ≤ right ∧ right < 0x11C3 then
    some (left + (right - 0x11A7))
  else none

/-! ### The composed form -/

/-- The parts of a character; the character itself when it has none. -/
def parts (code : Nat) : List Nat :=
  match syllableParts? code with
  | some found => found
  | none =>
    match composites.find? (·.1 = code) with
    | some (_, found) => found
    | none => [code]

/-- The character that two characters make. -/
def join? (left right : Nat) : Option Nat :=
  match syllable? left right with
  | some code => some code
  | none =>
    let wanted := parts left ++ [right]
    (composites.find? (·.2 = wanted)).map Prod.fst

/-- Puts a mark with its class behind those whose classes are not greater. The list is reversed. -/
def place (mark : Nat × Nat) : List (Nat × Nat) → List (Nat × Nat)
  | [] => [mark]
  | last :: before =>
    if mark.2 ≠ 0 ∧ mark.2 < last.2 then last :: place mark before else mark :: last :: before

/-- The parts of a text with their classes, marks in order. -/
def decompose (text : List Nat) : List (Nat × Nat) :=
  ((text.flatMap parts).foldl (fun found code => place (code, markClass code) found) []).reverse

structure Composing where
  /-- What is finished, reversed. -/
  finished : List Nat := []
  /-- The last base, to which marks can still be added. -/
  base : Option Nat := none
  /-- The marks behind the base that did not join it, reversed. -/
  marks : List Nat := []
  lastClass : Nat := 0

/-- Adds what stands open to what is finished. -/
def Composing.close (text : Composing) : List Nat := text.marks ++ text.base.toList ++ text.finished

/-- Adds a character with its class. -/
def Composing.add (text : Composing) (entry : Nat × Nat) : Composing :=
  let (code, order) := entry
  let joined := if text.marks.isEmpty || text.lastClass < order then text.base.bind (join? · code) else none
  match joined with
  | some whole => { text with base := some whole }
  | none =>
    if order = 0 then { finished := text.close, base := some code }
    else { text with marks := code :: text.marks, lastClass := order }

/-- The composed form of a text. -/
def compose (text : List Char) : List Char :=
  let composing := (decompose (text.map Char.toNat)).foldl Composing.add {}
  composing.close.reverse.map Char.ofNat

end ScriptSandbox.Url.Idna
