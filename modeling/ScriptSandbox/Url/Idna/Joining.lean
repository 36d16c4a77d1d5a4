import ScriptSandbox.Url.Idna.Composition

/-!
# Marks and joiners in labels

A label does not start with a mark. The two invisible characters that join letters or keep them
apart stand only where they show: after a mark that joins consonants, and the one that keeps apart
also between letters that would join.
-/
namespace ScriptSandbox.Url.Idna

def markTable : String :=
  "lc-33 7o-6 7c-18 2 2-1 2-1 2 21-a 1d-k h 2u-6 3-5 3-1 2-3 10 v-q 2k-a 1n-8 a p-3 2-8 2-2 2-4 " ++
  "18-2 1o-8 17-1l 1j-2 2-h 2-6 b-1 u-2 1l 2-f a b-1 r-5 1l-l v-1 4 c-2 1l 2-f l-1 n-9 1l 2-p b-1 " ++
  "v 1o-f a 15-4 1k 2-o c-1 u-2 1l 2-o c-1 g-g 1k-1 2-f a b-1 u-2 1z-l j-1 1q 3-6 d-7 2r 3-8 c-6 " ++
  "22-1 s 2 2 5-1 1e-j 2-1 6-1b a 2t-j o-3 5-2 2-2 3-6 4-3 e-b 2 b-3 jk-2 qb-3 t-2 u-1 v-1 1v-t a " ++
  "4o-1 z 3b-r 64-4 1m-16 1d-2c 1c-g 13-8 d-2 v-c 1l-d 1d-j 49-2 2-k 5 7 3-2 5j-1r k1-w 2db-2 3y " ++
  "2p-v ff-5 2y-1 n9x-3 2-9 x-1 29-1 7l 4 5 o-4 5 2c-1 1f-h r-h e 13-7 q-c 19-3 1c-d 11 1w-d d " ++
  "9-1 1a-2 1f 2-2 3-1 6-1 2 16-4 6-1 6l-7 2-1 fn5 le-f r2 6b 46-4 1af-e 15-7 4m-1 fy-3 1u-4 8u-1 " ++
  "26-5 1z-a 1e-3 3f-2 1i-e 16 3-1 b-3 1a-a 8 1q-2 11-d h-1 19 d-2 1d-d 9-3 2-1 2l-b 7 3 4e-b m-3 " ++
  "1k-1 2-f a b-i 1w-o 2 f-1 2b-h o 2a-j 6k-h s-1 2b-g 2z-c 2u-e 75-e 6u-e 2 2-1 3y-f 4 t-9 15-6 " ++
  "2-3 9 a-a 1b-f 5j-7 5k-g 2b-10 3f-k 2 1v-d 9o-3 a-1 2 1d-e o 44m 7-e 8uh-h 1xd-4 1o-6 t5 2-1t " ++
  "2a-d f58-1 3mq-1y f3-4 4-l 3-6 v-3 45-2 1j0-1i 5-1d 9 f n-k 11t-3z 4h-6 ag 1q-3 e5-3 73-1 6s 3 " ++
  "8-1 6 d7-6 32-6"

/-- The letters that join the next one only. -/
def nextTable : String :=
  "x9u jff a fd jv"

/-- The letters that join the previous one only. -/
def previousTable : String :=
  "17m-3 2 2 6-3 m 15-2 l-h 13 3-8 2 2 3-1 2 p-1 x 5-4 5 a 2 2 3 u c-2 g-1 5 2-1 4-1 5j 6-1 2 b " ++
  "2-2 f 2-p c s-2 2 3-1 7 1ez0 2 2-1 4-4 b 4 3 b 42 2-2 4 3 2-1 2 o-3 ae bk 35 x w-1 1r-2 3-1 3 " ++
  "5-1 6"

/-- The letters that join both neighbours. -/
def bothTable : String :=
  "17k 6 2 2-4 5-c 2-6 2-1 10-1 a-e j-11 2-1 a 2 2-1 15-2 3 j-2 6-3 2-8 2 2 2-1 w-a 4-e 3-3 2 3-2 " ++
  "3-5 23-w 2f-4 3 2-9 2 b 2-3 3 u 3-4 2 h-9 6-1 3-5 2-e 30f p-2g f-x 2 sd2-1d jf3-4 f-3 2-4 2-2 " ++
  "b-3 42 2 4-2 2-1 2 3 t-1 9f-w 2 bk-1 2-1 2x-2 2-g d-2 t-3 3-b 1b 2-1 5 3-1 2-1 2 3 6 16xk-x"

/-- The characters that joining passes over. -/
def passedTable : String :=
  "lc-33 7o-6 7c-18 2 2-1 2-1 2 21-a 1d-k h 2u-6 3-5 3-1 2-3 10 v-q 2k-a 1n-8 a p-3 2-8 2-2 2-4 " ++
  "18-2 1o-8 17-1k 1k 2 5-7 5 4-6 b-1 u 1n 5-3 9 l-1 r-4 1m 5-g v-1 4 c-1 1m 5-7 5 l-1 n-7 1n 3 " ++
  "2-3 9-9 c-1 v 1q d 1f 4 1k 2-2 6-g c-1 u 1n 3 7 6-1 l-1 t-1 1m-1 5-3 9 l-1 u 21 8-4 2j 3-6 d-7 " ++
  "2r 3-8 c-6 22-1 s 2 2 1k-d 2-4 2-1 6-1b a 2v-3 2-5 2-1 3-1 q-1 5-2 h-3 e 3-1 7 g jk-2 qb-2 u-1 " ++
  "v-1 v-1 1w-6 9 3-a a 4o-1 z 3b-2 5-1 a 7-2 64-1 3 1n 2-8 2 3-7 7-c 1d-2b 1d 2-4 2 6 15-8 d-1 " ++
  "x-3 3-1 2-2 1l 2-1 4 2-2 1n-7 3-1 49-2 2-c 2-6 5 7 4-1 5j-1r k1-w 2db-2 3y 2p-v ff-3 30-1 " ++
  "n9x-3 2-9 x-1 29-1 7l 4 5 q-1 6 48-1 r-h e 13-7 q-a 1b-2 1d 3-3 3-1 14 1w-5 3-1 3-1 d 9 1c 1g " ++
  "2-2 3-1 6-1 2 17-1 9 6n 3 5 fn5 le-f r2 6b 46-4 1af-e 15-7 4m-1 fy-3 1u-4 8u-1 26-5 1z-a 1e-3 " ++
  "3g 1j-e 16 3-1 b-2 1e-3 3-1 8 1q-2 11-4 2-7 1r d-1 1h-8 b-3 3 2o-2 3 2-1 7 3 4e 4-7 m-1 1m-1 4 " ++
  "12-e 1z-5 e 2 2 f-1 2e-7 3-2 2 o 2d-5 2 5-1 2-1 6n-3 7-1 2-1 s-1 2e-7 3 2-1 2z 2 3-5 2 2u 2 " ++
  "3-3 2-4 78-8 2-1 75-1 2 5 41-7 5 x-9 15-5 3-3 9 a-5 3-2 1b-c 2-1 5j 2-2 2 5m-d 2 2b-l 3-6 2-1 " ++
  "2-1 3f-k 2 21-1 4 2 9o-1 c-1 1h-4 6 2 o 44m 7-e 8uh-b 4-2 1xd-4 1o-6 t5 1s-3 2a f5l-1 3mq-1y " ++
  "f5-2 i-7 3-6 v-3 45-2 1j0-1i 5-1d 9 f n-k 11t-3z 4h-6 ag 1q-3 e5-3 73-1 6s 3 8-1 6 d7-6 32-7"

def markRanges : Array (Nat × Nat) := Ranges.ofTable markTable

def joinsNext : Array (Nat × Nat) := Ranges.ofTable nextTable ++ Ranges.ofTable bothTable

def joinsPrevious : Array (Nat × Nat) := Ranges.ofTable previousTable ++ Ranges.ofTable bothTable

def passed : Array (Nat × Nat) := Ranges.ofTable passedTable

/-- The class of marks that join consonants. -/
def joiningClass : Nat := 9

/-- Whether the next letter of a text, past what joining passes over, is in some ranges. -/
def nextIsIn (ranges : Array (Nat × Nat)) (text : List Char) : Bool :=
  match text.dropWhile fun c => Ranges.holds passed c.toNat with
  | c :: _ => Ranges.holds ranges c.toNat
  | [] => false

/-- Whether the joiners of a text stand where they show. What comes before is given reversed. -/
def joinersFit (before : List Char) : List Char → Bool
  | [] => true
  | c :: rest =>
    let afterJoiningMark := match before with
      | last :: _ => markClass last.toNat = joiningClass
      | [] => false
    let fits :=
      if c = '\u200D' then afterJoiningMark
      else if c = '\u200C' then afterJoiningMark || (nextIsIn joinsNext before && nextIsIn joinsPrevious rest)
      else true
    fits && joinersFit (c :: before) rest

/-- Whether marks and joiners stand where they may in a label. -/
def marksFit (label : List Char) : Bool :=
  (match label with
    | c :: _ => !Ranges.holds markRanges c.toNat
    | [] => true) && joinersFit [] label

end ScriptSandbox.Url.Idna
