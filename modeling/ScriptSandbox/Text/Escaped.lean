import ScriptSandbox.Text.Bytes
import ScriptSandbox.Text.Ranges

/-!
# Quoted texts in messages

A text that a message shows stands between quotes. A quote and a backslash in it are escaped, three
control characters and the null character have short escapes, and every other character that would
not print on its own is shown by its code point.
-/
namespace ScriptSandbox.Escaped

/-- The code points that do not print on their own: controls, format and unassigned characters,
every blank but the space, and the marks that join the character before them. -/
def invisibleTable : String :=
  "0-v 2o-x d gj-33 9-1 7-3 8 2 l 69-6 4n 13-1 1f-1 4-19 2 2-1 2-1 2-8 s-3 7-g b-a 2 1b-k h " ++
  "2u-7 2-5 3-1 2-3 x-1 2 v-s 2i-a 2-d 18-8 8-2 p-3 2-8 2-2 2-6 g q-4 2 c-4 x-f 17-1k 1k 2 5-7 " ++
  "5 4-6 b-1 u 3 9-1 3-1 n 8 2-2 5-2 2 3-5 3-1 3 2-c 3 4-3 p-4 2 7-3 3-1 n 8 3 3 3-3 4-n 5 2-6 " ++
  "b-1 4 2-b 2 a 4 n 8 3 6-2 5-7 2 3-2 2-e 3-3 d-6 2-7 3 9-1 3-1 n 8 3 6-2 2-1 2-5 3-1 3-e 3 " ++
  "4-3 j-a 2 7-2 4 5-2 3 2 3-2 3-2 4-2 d-4 2 3-2 4 4-2 2-k m-5 4 9 4 o h-2 2-2 5-i 4 3-1 3-3 " ++
  "b-6 b c 4 o b 6-2 3-1 2 3-m 4 3-3 b 4-d c 4 16-1 2 3-4 4 4 3-3 4 b-3 r-1 3 j-2 p a 2-1 8-8 " ++
  "3-5 8-6 b-1 4-b 1d 3-a 9-7 e-10 3 2 6 p 2 b 3-8 2-1 6 2-8 b-1 5-v p-1 s 2 2 f 11-h 2-4 2-1 " ++
  "6-1c 9 7 e-10 1a-3 2-5 2-1 3-1 q-1 5-2 h-3 e 3-1 7 g 15 2-4 2-1 ai 5-1 8 2 5-1 16 5-1 y 5-1 " ++
  "8 2 5-1 g 1m 5-1 1w-4 u-2 r-5 2f-1 7-1 ht t-2 2i-6 j-c k-2 3-8 j-d e 4-e 1h-1 2-6 9 3-a a-2 " ++
  "b-5 b-5 c-4 b-5 2i-6 6-1 z 2-4 1z-9 w-3 5-1 4-3 3 7-6 2-2 17-1 6-a 19-3 r-5 c-2 1m-1 3-2 1l " ++
  "2-8 2 3-7 7-c b-5 b-5 f-2d 1d-9 5-2 9 u-8 d-1 x-3 3-5 1l 2-1 4 2-c 1d-7 3-4 g-2 1r-4 18-1 " ++
  "c-a 2-c 2-6 5 7 4-1 2-4 5d-1r 7r-1 7-1 13-1 7-1 9 2 2 2 w-1 1i g f-1 7 k-1 4 a-g p-7 1c-g " ++
  "3-1 s e-2 z-1p 3x-3 ij-l c-k 1ed-1 ai-2 3-4 1a 2-4 2-1 1l-6 3-e o-8 8 8 8 8 8 8 8 8-w 2n-x r " ++
  "2i-b 5z-p h 16-5 h 2f-3 2u-4 18 2n 2f-8 1d mlq-2 1k-8 9p-j 1c-3 2-9 x-1 29-1 7-7 66-j i 4 5 " ++
  "q-1 6-3 b-5 1l-7 1x-9 d-n e 13-7 q-a 2-b v-5 1d 3-3 3-1 3 e c-3 8 q 16-5 3-1 3-a 4 9 2-1 b-1 " ++
  "x 1g 2-2 3-1 6-1 2 2-n i-1 9-a 7-1 7-1 7-8 8 8 1p-3 3a 3 5-2 b-5 8md-b o-3 1e-6ir a7-1 2z-11 " ++
  "8-b 6-4 2 p 6 2 3 3 i3-v h-f b-l 10 k 5-3 6 3s-3 4e-1 w-2 7-1 7-1 7-1 4-2 8 8-c 3-1 d r k 3 " ++
  "g-1 f-x 3g-4 4-3 1a-2 2h e-2 2-1a 1a-3m u-2 1e-f s-3 11-8 v-4 13-9 v 12-3 f-15 4f-1 b-5 11-3 " ++
  "11-3 15-7 1h-a d g 8 3 c g 8 3-2 1h-b 8o-8 n-9 9-n 7 17 a-1w 7-1 2 19 3-2 2-1 o 21-7 a-1b k " ++
  "3-4 y-2 s-4 s-11 1l-3 l-1 1c-e 5 4 u-9 a-6 a-6 1t-v 12-5 d-8 1j-2 u-1 s-4 r-6 5-b 8-27 22-1i " ++
  "1g-c 1g-6 17-b b-5 13-7 p-7 3-5r w 17-2 2-1 3-f 7-7 a-12 15-7 n-a a-l j-3 5-11 t-j o-8 2 " ++
  "1j-e 8-3 v 3-1 2-b 1e-3 3-1 3 5-d q-6 b-8 11-4 2-8 j-7 10 4-a 1h-8 2 9-3 3 h l-a j t-2 3-3 7 " ++
  "3-1q 8 2 5 g c-5 1c 4-c b-7 3 9-1 3-1 n 8 3 6-2 2 2 5-1 3-1 3-2 2-b 8-r b 2-1 2 13 2 3-e 2 " ++
  "3-2 2 4 3-12 1l-7 3-2 2 m 2 4-t 1d 3-5 2 3 2-1 2-1 5-7 b-4l 1c 3-5 5-1 2-1 s-z 1g-7 3 2-1 " ++
  "5-a b-5 e-i 18 2 3-7 3-5 b-5 l-r s-2 2 3-3 2-8 o-54 1c-8 2-1 2-2r 2c-b 9-1 2-1 9 3 p 6 3-5 5 " ++
  "4-8 b-1x 9-1 17-7 5 5-q 2-9 15-5 3-3 9-8 2-5 3-2 1b-c 2-1 a-c 22-6 b-2e 2-2 2 2-2f z-d b-5 a " ++
  "13-d 2 7-9 u-2 x-o 2-6 2-1 2-22 8 3 13-k 2-8 b-5 7 3 12-3 3 2 2-6 b-5 19-3 b-6t k-1 5-8 g " ++
  "11-7 3-2 o-2d 2-e 1f-c po-2t 34 6-a 5h-217 2s-c tt-g 7-o 330-4 g8-5a0 v-b 4-2 b-1c5 fu-6 w " ++
  "b-3 2a b-5 v-6 2-9 1d-6 g-9 b 8 m-4 k-bz 1n-5h 2k-4 q-1 q-17 24-4 1l-a e-1r 5-d 6-8 5p3-14 " ++
  "x-2o 38-6po 5 8 3 84-e 2-s 4-1 2-d 5-7 b1-1s3 30-4 e-2 a-6 b-1 2-1 2-31b 72-2 c5-5 o-e i-2m " ++
  "39-1n 6v-9 14-1 1p-4 4-l 3-6 v-3 1q-k 1v-2 2-3d l-b l-b 2g-8 q-3q 2e 20 3-1 2-1 3-1 5 d 2 8 " ++
  "1u 5-1 9 8 t 5 6 2-2 8 9h-1 85-1 fn-1i 5-1d 9 f 8-vn w-5 7-78 1r-41 1a-9 8-1 b-3 3-8v v-h " ++
  "19-3 b-4 2-cv t-3 b-5x v-1 c-3 2-5b w 4 3 8-1 6-8 3-67 8 5 3 g 5i-1 a-1b 1x-6 2-3 b-3 3-ls " ++
  "1x-23 1q-5d 5 s 3 2-1 2 b 5 2 2-5 2-3 2 2 2 4 3 2-1 2 2 2 2 2 3 2-1 5 8 5 5 2 b i-4 4 6 i-1f " ++
  "3-7h 19-3 2t-b g-1 g g 12-9 4v-1j u-c 19-3 a-6 3-d 7-49 re-2 i-2 e-2 63-5 d-3 2-e d-3 1l-7 " ++
  "b-5 15-7 v-1 d-3 3-d a-12 9l-7 f-1 e-2 c-2 1m 2-3 h-1 d-3 b-6 44 2w-sk wyp-v 3dr-1 4gf-1 " ++
  "5rm-e hb-1wh f3-15t 3t8-4 6jv-jdl1"

def invisible : Array (Nat × Nat) := Ranges.ofTable invisibleTable

def codeText (code : Nat) : List Char := Nat.toDigits 16 code

/-- A character between quotes. -/
def escape (c : Char) : List Char :=
  match c with
  | '"' => ['\\', '"']
  | '\\' => ['\\', '\\']
  | '\n' => ['\\', 'n']
  | '\r' => ['\\', 'r']
  | '\t' => ['\\', 't']
  | '\x00' => ['\\', '0']
  | c =>
    if 0x20 ≤ c.toNat ∧ c.toNat < 0x7F then [c]
    else if Ranges.holds invisible c.toNat then '\\' :: 'u' :: '\x7b' :: (codeText c.toNat ++ ['\x7d'])
    else [c]

/-- A text between quotes. -/
def quoted (text : String) : String :=
  String.ofList ('"' :: (text.toList.flatMap escape ++ ['"']))

end ScriptSandbox.Escaped
