import DeviceUplink.Bytes

/-!
# ChaCha20

The stream cipher with a 256-bit key, a 96-bit nonce and a block counter of 32 bits. Applying it
twice gives the data back.
-/

namespace DeviceUplink.ChaCha20

abbrev Matrix := Vector UInt32 16

def wordsOf : Bytes → List UInt32
  | a :: b :: c :: d :: rest => (Bytes.toNatLE [a, b, c, d]).toUInt32 :: wordsOf rest
  | _ => []

def rotate (x : UInt32) (n : UInt32) : UInt32 :=
  x <<< n ||| x >>> (32 - n)

/-- Mixes four words, which have to stand at different places. -/
def quarterRound (m : Matrix) (a b c d : Fin 16) : Matrix :=
  let m := m.set a (m[a] + m[b])
  let m := m.set d (rotate (m[d] ^^^ m[a]) 16)
  let m := m.set c (m[c] + m[d])
  let m := m.set b (rotate (m[b] ^^^ m[c]) 12)
  let m := m.set a (m[a] + m[b])
  let m := m.set d (rotate (m[d] ^^^ m[a]) 8)
  let m := m.set c (m[c] + m[d])
  m.set b (rotate (m[b] ^^^ m[c]) 7)

/-- A round down the columns and a round along the diagonals. -/
def doubleRound (m : Matrix) : Matrix :=
  let m := quarterRound m 0 4 8 12
  let m := quarterRound m 1 5 9 13
  let m := quarterRound m 2 6 10 14
  let m := quarterRound m 3 7 11 15
  let m := quarterRound m 0 5 10 15
  let m := quarterRound m 1 6 11 12
  let m := quarterRound m 2 7 8 13
  quarterRound m 3 4 9 14

def start (key nonce : Bytes) (counter : UInt32) : Matrix :=
  let words := [0x61707865, 0x3320646e, 0x79622d32, 0x6b206574] ++ wordsOf key
    ++ counter :: wordsOf nonce
  Vector.ofFn fun i => words.getD i.val 0

def block (key nonce : Bytes) (counter : UInt32) : Bytes :=
  let first := start key nonce counter
  let last := Nat.repeat doubleRound 10 first
  (first.zipWith (· + ·) last).toList.flatMap fun x => Bytes.ofNatLE 4 x.toNat

/-- Combines the data with the key stream that starts at block `counter`. -/
def apply (key nonce : Bytes) (counter : UInt32) (data : Bytes) : Bytes :=
  if _h : data = [] then []
  else List.zipWith (· ^^^ ·) (data.take 64) (block key nonce counter)
    ++ apply key nonce (counter + 1) (data.drop 64)
termination_by data.length
decreasing_by
  have : data.length ≠ 0 := fun h0 => _h (List.eq_nil_of_length_eq_zero h0)
  simp only [List.length_drop]
  omega

theorem length_block (key nonce : Bytes) (counter : UInt32) :
    (block key nonce counter).length = 64 := by
  have (words : List UInt32) :
      (words.flatMap fun x => Bytes.ofNatLE 4 x.toNat).length = words.length * 4 := by
    induction words with
    | nil => rfl
    | cons x rest ih => simp [ih, Bytes.length_ofNatLE, Nat.succ_mul, Nat.add_comm]
  rw [block, this, Vector.length_toList]

theorem length_apply (key nonce : Bytes) (counter : UInt32) (data : Bytes) :
    (apply key nonce counter data).length = data.length := by
  fun_induction apply key nonce counter data with
  | case1 => rfl
  | case2 counter data _ ih =>
    simp only [List.length_append, ih, List.length_zipWith, List.length_take, List.length_drop,
      length_block]
    omega

end DeviceUplink.ChaCha20
