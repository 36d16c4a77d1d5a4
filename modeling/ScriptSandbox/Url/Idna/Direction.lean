import ScriptSandbox.Text.Ranges

/-!
# The direction of labels

Where a domain name has a letter or a digit that is written from right to left, each of its labels
must be readable in one direction: it starts with a letter, holds only characters that go with this
letter's direction, and ends in a letter or a digit of it, marks aside.
-/
namespace ScriptSandbox.Url.Idna

/-- How a character takes part in the direction of a text. -/
inductive Direction where
  | left
  | right
  /-- An Arabic letter, written from right to left as well. -/
  | arabicLetter
  | europeanDigit
  | arabicDigit
  /-- A sign before or between digits. -/
  | separator
  /-- A sign after digits. -/
  | terminator
  /-- A separator of all digits. -/
  | commonSeparator
  | mark
  | neutral
  | boundary
  deriving DecidableEq, Repr

/-- The table of each direction but `left`. -/
def directionTables : List (Direction × String) :=
  [(.right,
  "14u 2 3 3 a-10 cs-16 a-1 5 4-n 5 a 4 8-14 6 1ehu-7v 5-68 g-11 b-4k 7-22 b-cf 1t-f v-x 6p-15 " ++
  "4-4 27-13 21-h 5-34 16oa-5r 2b-x 8-k"),
   (.arabicLetter,
  "16w 3 2 e-1b z-2 2-2s g-1 8-1 b-m 2-t u-2g c 4v-1b h-15 1bzd-w ce-1q 4l 2vh-z bj-m 2g-l c-8 " ++
  "17o8-5o"),
   (.europeanDigit,
  "1c-9 1br-9 1drc-q"),
   (.arabicDigit,
  "19c-9 2-1 1fwk-9 87-u"),
   (.separator,
  "17 2 6p1"),
   (.terminator,
  "z-2 3h-3 b-1 ym 3e-1 2o p4-1 8 6u 7c g6 1wc 1n9-2 32-w 32 6d qhx-1 nms-3 12jj"),
   (.commonSeparator,
  "18 2-1 b 15e 56g"),
   (.mark,
  "lc-33 7o-6 7c-18 2 2-1 2-1 2 21-a 1d-k h 2u-6 3-5 3-1 2-3 10 v-q 2k-a 1n-8 a p-3 2-8 2-2 2-4 " ++
  "18-2 1o-8 17-1k 1k 2 5-7 5 4-6 b-1 u 1n 5-3 9 l-1 r-4 1m 5-g v-1 4 c-1 1m 5-7 5 l-1 n-7 1n 3 " ++
  "2-3 9-9 c-1 v 1q d 1f 4 1k 2-2 6-g c-1 u 1n g-1 l-1 t-1 1m-1 5-3 9 l-1 u 21 8-4 2j 3-6 d-7 2r " ++
  "3-8 c-6 22-1 s 2 2 1k-d 2-4 2-1 6-1b a 2v-3 2-5 2-1 3-1 q-1 5-2 h-3 e 3-1 7 g jk-2 qb-2 u-1 " ++
  "v-1 v-1 1w-6 9 3-a a 4o-1 z 3b-2 5-1 a 7-2 64-1 3 1n 2-8 2 3-7 7-c 1d-2b 1d 2-4 2 6 15-8 d-1 " ++
  "x-3 3-1 2-2 1l 2-1 4 2-2 1n-7 3-1 49-2 2-c 2-6 5 7 4-1 5j-1r k1-w 2db-2 3y 2p-v ff-3 30-1 " ++
  "n9x-3 2-9 x-1 29-1 7l 4 5 q-1 6 48-1 r-h e 13-7 q-a 1b-2 1d 3-3 3-1 14 1w-5 3-1 3-1 d 9 1c 1g " ++
  "2-2 3-1 6-1 2 17-1 9 6n 3 5 fn5 le-f r2 6b 46-4 1af-e 15-7 4m-1 fy-3 1u-4 8u-1 26-5 1z-a 1e-3 " ++
  "3g 1j-e 16 3-1 b-2 1e-3 3-1 8 1q-2 11-4 2-7 1r d-1 1h-8 b-3 3 2o-2 3 2-1 7 3 4e 4-7 m-1 1m-1 4 " ++
  "12-e 1z-5 e 2 2 f-1 2e-7 3-2 2 o 2d-5 2 5-1 2-1 6n-3 7-1 2-1 s-1 2e-7 3 2-1 2z 2 3-5 2 2u-2 " ++
  "3-3 2-4 78-8 2-1 75-1 2 5 41-7 5 x-5 3-1 15-5 3-3 9 a-5 3-2 1b-c 2-1 5j 2-2 2 5m-d 2d-l 3-6 " ++
  "2-1 2-1 3f-k 2 21-1 4 2 9o-1 c-1 1h-4 6 2 o 44m 7-e 8uh-b 4-2 1xd-4 1o-6 t5 1s-3 2a f5l-1 " ++
  "3mq-1y f5-2 i-7 3-6 v-3 45-2 1j0-1i 5-1d 9 f n-k 11t-3z 4h-6 ag 1q-3 e5-3 73-1 6s 3 8-1 6 d7-6 " ++
  "32-6"),
   (.neutral,
  "x-1 4-4 h-11 r-3 z 5-8 8-x w ci-1 8-d 3-r 2-g 3a 3l b8-4 3c-1 7-1 5r b 7h-3 sa-5 2 3i-6 jg-3 " ++
  "ur-9 2v ij-1 9g-q 8m-5 49-x 175-n e-e 2-p 4m-11 h-j 1p-3r 3-81 1y-p 2-40 q-h7 2-9e 75-id 2-2w " ++
  "6e-5 f-6 75-ec 4-o g 7 6-2 2p 2j 5h-z 5i5-1r h3l-1i 93-2 2s b-1 3l-x 2v 4g-3 21-3 kz-1 g5v-h " ++
  "3k-1c 1y-1 jf 1r-24 4-g 1hb ey-6 103-j 16j-c 1ux-7 5-g fsh jd3-2g 4 57-2e 5ga-fz 1q-2 1q 4z-vr " ++
  "6-46 d-2g 8-5t 27-9f d-k 4-e a-s 4-a 6-5 b-9 7-7 9-6 a-5m"),
   (.boundary,
  "0-8 6-d 2s 68d-1")]

def directionRanges : List (Direction × Array (Nat × Nat)) :=
  directionTables.map fun (direction, table) => (direction, Ranges.ofTable table)

def direction (c : Char) : Direction :=
  match directionRanges.find? fun (_, ranges) => Ranges.holds ranges c.toNat with
  | some (found, _) => found
  | none => .left

/-- Whether a direction makes a name one that is written from right to left. -/
def Direction.isBackward : Direction → Bool
  | right | arabicLetter | arabicDigit => true
  | _ => false

/-- Whether a direction may occur in a label that starts with a letter written from left to
right. -/
def Direction.fitsForward : Direction → Bool
  | right | arabicLetter | arabicDigit => false
  | _ => true

/-- Whether a direction may occur in a label that starts with a letter written from right to
left. -/
def Direction.fitsBackward : Direction → Bool
  | left => false
  | _ => true

/-- Whether a label can be read in one direction. -/
def isDirected (label : List Char) : Bool :=
  let all := label.map direction
  let last := (all.reverse.dropWhile (· == .mark)).head?
  match all with
  | [] => true
  | .left :: _ => all.all (·.fitsForward) && (last == some .left || last == some .europeanDigit)
  | .right :: _ | .arabicLetter :: _ =>
    all.all (·.fitsBackward) &&
      (last == some .right || last == some .arabicLetter || last == some .europeanDigit ||
        last == some .arabicDigit) &&
      !(all.contains .europeanDigit && all.contains .arabicDigit)
  | _ => false

end ScriptSandbox.Url.Idna
