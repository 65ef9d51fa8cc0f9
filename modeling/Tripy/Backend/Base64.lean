import Mathlib.Data.List.Basic
import Mathlib.Algebra.Group.Nat.Basic

/-! `base64.b64encode` and `base64.b64decode` as `encode_executable` and
`decode_executable` use them on the serialized artifact. The encoder is
`binascii.b2a_base64` without the trailing newline, one group of three bytes at a time. The decoder is the state machine of `binascii.a2b_base64`
in its default, non-strict mode: bytes outside the alphabet are skipped and a pad ends the
input once the quad is complete. Bit operations are the C source's, on `Nat`. -/
namespace Tripy.Base64

/-- `table_b2a_base64`: `A-Z`, `a-z`, `0-9`, `+`, `/`. -/
def b2aTable (v : Nat) : UInt8 :=
  UInt8.ofNat (if v < 26 then v + 65 else if v < 52 then v + 71 else if v < 62 then v - 4
    else if v = 62 then 43 else 47)

/-- `table_a2b_base64`: the value of an alphabet byte, `none` for every other byte. -/
def a2bTable (c : UInt8) : Option Nat :=
  if 65 ≤ c.toNat ∧ c.toNat ≤ 90 then some (c.toNat - 65)
  else if 97 ≤ c.toNat ∧ c.toNat ≤ 122 then some (c.toNat - 71)
  else if 48 ≤ c.toNat ∧ c.toNat ≤ 57 then some (c.toNat + 4)
  else if c.toNat = 43 then some 62
  else if c.toNat = 47 then some 63
  else none

/-- `BASE64_PAD`, the byte of `=`. -/
def pad : UInt8 := 61

/-- `base64.b64encode`. -/
def b64encode : List UInt8 → List UInt8
  | [] => []
  | [a] => [b2aTable (a.toNat >>> 2), b2aTable ((a.toNat &&& 0x3) <<< 4), pad, pad]
  | [a, b] =>
    [b2aTable (a.toNat >>> 2), b2aTable ((a.toNat &&& 0x3) <<< 4 ||| b.toNat >>> 4),
      b2aTable ((b.toNat &&& 0xf) <<< 2), pad]
  | a :: b :: c :: rest =>
    [b2aTable (a.toNat >>> 2), b2aTable ((a.toNat &&& 0x3) <<< 4 ||| b.toNat >>> 4),
      b2aTable ((b.toNat &&& 0xf) <<< 2 ||| c.toNat >>> 6), b2aTable (c.toNat &&& 0x3f)] ++
      b64encode rest

example : b64encode [77, 97] = [84, 87, 69, 61] := by decide

/-- The errors `b64decode` raises: `ValueError` for a non-ASCII `str`, and the two
`binascii.Error`s of an unfinished quad. -/
inductive DecodeError where
  | nonAscii
  | excessDataChar (numDataChars : Nat)
  | incorrectPadding
  deriving DecidableEq, Repr

/-- The locals of `a2b_base64` carried from one input byte to the next. -/
structure A2bState where
  quadPos : Nat
  leftchar : Nat
  pads : Nat
  out : List UInt8

/-- One alphabet character of value `v`: `pads = 0`, then `switch (quad_pos)`. -/
def A2bState.feed (st : A2bState) (v : Nat) : A2bState :=
  match st.quadPos with
  | 0 => ⟨1, v, 0, st.out⟩
  | 1 => ⟨2, v &&& 0x0f, 0, st.out ++ [UInt8.ofNat (st.leftchar <<< 2 ||| v >>> 4)]⟩
  | 2 => ⟨3, v &&& 0x03, 0, st.out ++ [UInt8.ofNat (st.leftchar <<< 4 ||| v >>> 2)]⟩
  | _ => ⟨0, 0, 0, st.out ++ [UInt8.ofNat (st.leftchar <<< 6 ||| v)]⟩

/-- After the last byte: a quad left open is an error. -/
def A2bState.finish (st : A2bState) : Except DecodeError (List UInt8) :=
  if st.quadPos = 0 then .ok st.out
  else if st.quadPos = 1 then .error (.excessDataChar (st.out.length / 3 * 4 + 1))
  else .error .incorrectPadding

/-- The loop of `a2b_base64`; `.ok st.out` on a pad is its `goto done`. -/
def a2bLoop : A2bState → List UInt8 → Except DecodeError (List UInt8)
  | st, [] => st.finish
  | st, c :: cs =>
    if c = pad then
      if 2 ≤ st.quadPos ∧ 4 ≤ st.quadPos + (st.pads + 1) then .ok st.out
      else a2bLoop (if 2 ≤ st.quadPos then { st with pads := st.pads + 1 } else st) cs
    else match a2bTable c with
      | none => a2bLoop st cs
      | some v => a2bLoop (st.feed v) cs

/-- `binascii.a2b_base64(s, strict_mode=False)`. -/
def a2bBase64 (s : List UInt8) : Except DecodeError (List UInt8) := a2bLoop ⟨0, 0, 0, []⟩ s

example : a2bBase64 [84, 87, 69, 61] = .ok [77, 97] := rfl

/-- `bytes.decode()` on the bytes `b64encode` returns. UTF-8 is ASCII below 128; a byte
from 128 up starts a multi-byte sequence, which is not modelled and is reported as
undecodable (`b64encode_ascii` shows the encoder never emits one). -/
def bytesDecode (bs : List UInt8) : Except Unit String :=
  if bs.all (·.toNat < 128) then .ok ⟨bs.map fun b => Char.ofNat b.toNat⟩ else .error ()

/-- `_bytes_from_decode_data` on a `str`: `s.encode('ascii')`. -/
def asciiBytes (s : String) : Except DecodeError (List UInt8) :=
  if s.data.all (·.toNat < 128) then .ok (s.data.map fun c => UInt8.ofNat c.toNat)
  else .error .nonAscii

/-- `base64.b64decode(s)` for a `str` argument, `validate=False`. -/
def b64decode (s : String) : Except DecodeError (List UInt8) := do
  a2bBase64 (← asciiBytes s)

/-! ### Bit arithmetic -/

theorem shiftLeft_or_eq_add {x y k : Nat} (hy : y < 2 ^ k) : x <<< k ||| y = x * 2 ^ k + y := by
  refine Nat.eq_of_testBit_eq fun j => ?_
  rw [Nat.testBit_or, Nat.testBit_shiftLeft, Nat.mul_comm, Nat.testBit_mul_pow_two_add x hy]
  by_cases hj : j < k
  · rw [if_pos hj, decide_eq_false (by omega : ¬j ≥ k), Bool.false_and, Bool.false_or]
  · have : y.testBit j = false :=
      Nat.testBit_lt_two_pow (lt_of_lt_of_le hy (Nat.pow_le_pow_right (by decide) (by omega)))
    rw [if_neg hj, decide_eq_true (by omega : j ≥ k), Bool.true_and, this, Bool.or_false]

theorem land_three (x : Nat) : x &&& 0x3 = x % 4 := by
  simpa using Nat.and_pow_two_sub_one_eq_mod x 2

theorem land_fifteen (x : Nat) : x &&& 0xf = x % 16 := by
  simpa using Nat.and_pow_two_sub_one_eq_mod x 4

theorem land_sixtythree (x : Nat) : x &&& 0x3f = x % 64 := by
  simpa using Nat.and_pow_two_sub_one_eq_mod x 6

theorem uint8_ofNat_eq {n : Nat} {b : UInt8} (h : n = b.toNat) : UInt8.ofNat n = b := by
  subst h
  exact UInt8.toNat.inj (UInt8.toNat_ofNat_of_lt (UInt8.toNat_lt_size b))


theorem shl_or_shr {x y k m : Nat} (hy : y / 2 ^ m < 2 ^ k) :
    x <<< k ||| y >>> m = x * 2 ^ k + y / 2 ^ m := by
  rw [Nat.shiftRight_eq_div_pow, shiftLeft_or_eq_add hy]

/-- The byte `a2b_base64` writes at quad position 1, 2 and 3. -/
theorem assemble_bytes {y : Nat} (hy : y < 64) :
    (∀ x, x <<< 2 ||| y >>> 4 = x * 4 + y / 16) ∧ (∀ x, x <<< 4 ||| y >>> 2 = x * 16 + y / 4) ∧
      ∀ x, x <<< 6 ||| y = x * 64 + y :=
  ⟨fun _ => shl_or_shr (by omega), fun _ => shl_or_shr (by omega),
    fun _ => shiftLeft_or_eq_add (by omega)⟩

/-- The second and third sextet of a group. -/
theorem split_sextets {a b c : Nat} (hb : b < 256) (hc : c < 256) :
    (a &&& 0x3) <<< 4 ||| b >>> 4 = a % 4 * 16 + b / 16 ∧
      (b &&& 0xf) <<< 2 ||| c >>> 6 = b % 16 * 4 + c / 64 := by
  rw [land_three, land_fifteen]
  exact ⟨shl_or_shr (by omega), shl_or_shr (by omega)⟩

/-! ### The alphabet -/

theorem a2bTable_b2aTable : ∀ v, v < 64 → a2bTable (b2aTable v) = some v := by decide

theorem b2aTable_ne_pad : ∀ v, v < 64 → b2aTable v ≠ pad := by decide

theorem b2aTable_lt (v : Nat) : (b2aTable v).toNat < 128 := by
  unfold b2aTable
  split_ifs <;> rw [UInt8.toNat_ofNat_of_lt (by simp only [UInt8.size]; omega)] <;> omega

/-- An alphabet character is fed to the state machine with its value. -/
theorem a2bLoop_b2aTable (st : A2bState) {v : Nat} (hv : v < 64) (cs : List UInt8) :
    a2bLoop st (b2aTable v :: cs) = a2bLoop (st.feed v) cs := by
  simp [a2bLoop, b2aTable_ne_pad v hv, a2bTable_b2aTable v hv]

/-! ### Round trip -/

/-- Four alphabet characters from a quad boundary write three bytes and end on one. -/
theorem a2bLoop_quad (out : List UInt8) {v0 v1 v2 v3 : Nat} (h0 : v0 < 64) (h1 : v1 < 64)
    (h2 : v2 < 64) (h3 : v3 < 64) (cs : List UInt8) :
    a2bLoop ⟨0, 0, 0, out⟩ (b2aTable v0 :: b2aTable v1 :: b2aTable v2 :: b2aTable v3 :: cs) =
      a2bLoop ⟨0, 0, 0, out ++ [UInt8.ofNat (v0 * 4 + v1 / 16),
        UInt8.ofNat (v1 % 16 * 16 + v2 / 4), UInt8.ofNat (v2 % 4 * 64 + v3)]⟩ cs := by
  rw [a2bLoop_b2aTable _ h0, a2bLoop_b2aTable _ h1, a2bLoop_b2aTable _ h2,
    a2bLoop_b2aTable _ h3]
  simp [A2bState.feed, (assemble_bytes h1).1, (assemble_bytes h2).2.1, (assemble_bytes h3).2.2,
    land_fifteen, land_three]

/-- Two characters and two pads: one byte, then `done`. -/
theorem a2bLoop_pad2 (out : List UInt8) {v0 v1 : Nat} (h0 : v0 < 64) (h1 : v1 < 64)
    (cs : List UInt8) :
    a2bLoop ⟨0, 0, 0, out⟩ (b2aTable v0 :: b2aTable v1 :: pad :: pad :: cs) =
      .ok (out ++ [UInt8.ofNat (v0 * 4 + v1 / 16)]) := by
  rw [a2bLoop_b2aTable _ h0, a2bLoop_b2aTable _ h1]
  simp [A2bState.feed, a2bLoop, (assemble_bytes h1).1]

/-- Three characters and a pad: two bytes, then `done`. -/
theorem a2bLoop_pad1 (out : List UInt8) {v0 v1 v2 : Nat} (h0 : v0 < 64) (h1 : v1 < 64)
    (h2 : v2 < 64) (cs : List UInt8) :
    a2bLoop ⟨0, 0, 0, out⟩ (b2aTable v0 :: b2aTable v1 :: b2aTable v2 :: pad :: cs) =
      .ok (out ++ [UInt8.ofNat (v0 * 4 + v1 / 16), UInt8.ofNat (v1 % 16 * 16 + v2 / 4)]) := by
  rw [a2bLoop_b2aTable _ h0, a2bLoop_b2aTable _ h1, a2bLoop_b2aTable _ h2]
  simp [A2bState.feed, a2bLoop, (assemble_bytes h1).1, (assemble_bytes h2).2.1, land_fifteen]

/-- The bytes a full group decodes to. -/
theorem group_bytes (a b c : UInt8) :
    [UInt8.ofNat (a.toNat >>> 2 * 4 + (a.toNat % 4 * 16 + b.toNat / 16) / 16),
      UInt8.ofNat ((a.toNat % 4 * 16 + b.toNat / 16) % 16 * 16 +
        (b.toNat % 16 * 4 + c.toNat / 64) / 4),
      UInt8.ofNat ((b.toNat % 16 * 4 + c.toNat / 64) % 4 * 64 + c.toNat % 64)] = [a, b, c] := by
  have : b.toNat < 256 := UInt8.toNat_lt_size b
  have : c.toNat < 256 := UInt8.toNat_lt_size c
  simp only [List.cons.injEq, and_true, Nat.shiftRight_eq_div_pow]
  exact ⟨uint8_ofNat_eq (by omega), uint8_ofNat_eq (by omega), uint8_ofNat_eq (by omega)⟩

/-- An encoding followed by more input: after whole groups the loop goes on with the
rest; after a padded last group it stops there, whatever follows. -/
theorem a2bLoop_b64encode_append (out bs t : List UInt8) :
    a2bLoop ⟨0, 0, 0, out⟩ (b64encode bs ++ t) =
      if bs.length % 3 = 0 then a2bLoop ⟨0, 0, 0, out ++ bs⟩ t else .ok (out ++ bs) := by
  induction bs using b64encode.induct generalizing out with
  | case1 => simp [b64encode]
  | case2 a =>
    have ha : a.toNat < 256 := UInt8.toNat_lt_size a
    rw [b64encode, land_three]
    simp only [List.cons_append, List.nil_append]
    rw [a2bLoop_pad2 _ (by simp only [Nat.shiftRight_eq_div_pow]; omega)
      (by simp only [Nat.shiftLeft_eq]; omega), if_neg (by simp)]
    simp only [Nat.shiftRight_eq_div_pow, Nat.shiftLeft_eq]
    congr 3
    exact uint8_ofNat_eq (by omega)
  | case3 a b =>
    have ha : a.toNat < 256 := UInt8.toNat_lt_size a
    have hb : b.toNat < 256 := UInt8.toNat_lt_size b
    rw [b64encode, (split_sextets (c := 0) hb (by omega)).1, land_fifteen]
    simp only [List.cons_append, List.nil_append]
    rw [a2bLoop_pad1 _ (by simp only [Nat.shiftRight_eq_div_pow]; omega) (by omega)
        (by simp only [Nat.shiftLeft_eq]; omega), if_neg (by simp)]
    simp only [Except.ok.injEq, List.append_cancel_left_eq, List.cons.injEq, and_true,
      Nat.shiftRight_eq_div_pow, Nat.shiftLeft_eq]
    exact ⟨uint8_ofNat_eq (by omega), uint8_ofNat_eq (by omega)⟩
  | case4 a b c rest ih =>
    have ha : a.toNat < 256 := UInt8.toNat_lt_size a
    have hb : b.toNat < 256 := UInt8.toNat_lt_size b
    have hc : c.toNat < 256 := UInt8.toNat_lt_size c
    obtain ⟨e1, e2⟩ := split_sextets (a := a.toNat) hb hc
    rw [b64encode, e1, e2, land_sixtythree]
    simp only [List.cons_append, List.nil_append]
    rw [a2bLoop_quad _ (by simp only [Nat.shiftRight_eq_div_pow]; omega) (by omega) (by omega)
      (by omega), ih, group_bytes]
    simp only [List.append_assoc, List.cons_append, List.nil_append, List.length_cons,
      show (rest.length + 1 + 1 + 1) % 3 = rest.length % 3 by omega]

theorem a2bLoop_b64encode (out bs : List UInt8) :
    a2bLoop ⟨0, 0, 0, out⟩ (b64encode bs) = .ok (out ++ bs) := by
  have h := a2bLoop_b64encode_append out bs []
  rw [List.append_nil] at h
  rw [h]
  split_ifs <;> rfl

theorem pad_toNat : pad.toNat = 61 := rfl

/-- Every byte `b64encode` emits is ASCII. -/
theorem b64encode_ascii (bs : List UInt8) : ∀ c ∈ b64encode bs, c.toNat < 128 := by
  induction bs using b64encode.induct with
  | case1 => simp [b64encode]
  | case2 a => simp [b64encode, b2aTable_lt, pad_toNat]
  | case3 a b => simp [b64encode, b2aTable_lt, pad_toNat]
  | case4 a b c rest ih => simpa [b64encode, b2aTable_lt] using ih

theorem char_ofNat_toNat {n : Nat} (h : n < 128) : (Char.ofNat n).toNat = n := by
  have : n.isValidChar := Or.inl (by omega)
  simp [Char.ofNat, this, Char.ofNatAux, Char.toNat, UInt32.toNat]

/-- `.decode()` then `.encode('ascii')` gives ASCII bytes back. -/
theorem asciiBytes_bytesDecode {bs : List UInt8} (h : ∀ c ∈ bs, c.toNat < 128) :
    ∃ s, bytesDecode bs = .ok s ∧ asciiBytes s = .ok bs := by
  have hc : ∀ c ∈ bs, (Char.ofNat c.toNat).toNat = c.toNat := fun c hc =>
    char_ofNat_toNat (h c hc)
  have hall : (bs.all fun c => c.toNat < 128) = true := by simpa using h
  refine ⟨⟨bs.map fun b => Char.ofNat b.toNat⟩, by rw [bytesDecode, if_pos hall], ?_⟩
  have hall' : ((bs.map fun b => Char.ofNat b.toNat).all fun c => c.toNat < 128) = true := by
    simpa [List.all_map] using fun c hm => (hc c hm).symm ▸ h c hm
  rw [asciiBytes, if_pos hall', List.map_map]
  conv_rhs => rw [← List.map_id bs]
  exact congrArg Except.ok (List.map_congr_left fun c hm => uint8_ofNat_eq (hc c hm))

/-- `b64decode` inverts `b64encode(...).decode()` on every byte string. -/
theorem b64decode_b64encode (bs : List UInt8) :
    ∃ s, bytesDecode (b64encode bs) = .ok s ∧ b64decode s = .ok bs := by
  obtain ⟨s, hs, ha⟩ := asciiBytes_bytesDecode (b64encode_ascii bs)
  refine ⟨s, hs, ?_⟩
  simpa [b64decode, ha, a2bBase64] using a2bLoop_b64encode [] bs

/-! ### The stored text and what the decoder accepts -/

/-- `table_b2a_base64` maps every value, in range or not, into the alphabet. -/
theorem isSome_a2bTable_b2aTable (v : Nat) : (a2bTable (b2aTable v)).isSome := by
  by_cases hv : v < 64
  · simp [a2bTable_b2aTable v hv]
  · have h47 : b2aTable v = 47 := by
      unfold b2aTable
      rw [if_neg (by omega), if_neg (by omega), if_neg (by omega), if_neg (by omega)]
      rfl
    rw [h47]
    decide

/-- The text `encode_executable` stores for `n` bytes has `4 * ⌈n / 3⌉` characters, each
in the alphabet or `=`. -/
theorem b64encode_format (bs : List UInt8) :
    (b64encode bs).length = 4 * ((bs.length + 2) / 3) ∧
      ∀ c ∈ b64encode bs, c = pad ∨ (a2bTable c).isSome := by
  induction bs using b64encode.induct with
  | case1 => simp [b64encode]
  | case2 a => simp [b64encode, isSome_a2bTable_b2aTable]
  | case3 a b => simp [b64encode, isSome_a2bTable_b2aTable]
  | case4 a b c rest ih =>
    rw [b64encode, List.length_append, ih.1]
    refine ⟨by simp only [List.length_cons, List.length_nil]; omega, fun x hx => ?_⟩
    rcases List.mem_append.mp hx with h | h
    · simp only [List.mem_cons, List.not_mem_nil, or_false] at h
      rcases h with rfl | rfl | rfl | rfl <;> exact .inr (isSome_a2bTable_b2aTable _)
    · exact ih.2 x h

/-- A byte outside the alphabet other than the pad leaves the loop's state as it is. -/
theorem a2bLoop_filter (st : A2bState) (cs : List UInt8) :
    a2bLoop st (cs.filter fun c => c == pad || (a2bTable c).isSome) = a2bLoop st cs := by
  induction cs generalizing st with
  | nil => rfl
  | cons c cs ih =>
    by_cases hp : c = pad
    · simp [hp, a2bLoop, ih]
    · cases hv : a2bTable c <;> simp [hp, hv, a2bLoop, ih]

theorem b64decode_of_ascii {s : String} (h : ∀ ch ∈ s.data, ch.toNat < 128) :
    b64decode s = a2bBase64 (s.data.map fun ch => UInt8.ofNat ch.toNat) := by
  have hall : (s.data.all fun ch => ch.toNat < 128) = true := by simpa using h
  rw [b64decode, asciiBytes, if_pos hall]
  rfl

theorem b64decode_of_not_ascii {s : String} {ch : Char} (hch : ch ∈ s.data)
    (hn : ¬ch.toNat < 128) : b64decode s = .error .nonAscii := by
  have hall : (s.data.all fun c => c.toNat < 128) = false := by
    simpa using ⟨ch, hch, Nat.not_lt.mp hn⟩
  rw [b64decode, asciiBytes, if_neg (by simp [hall])]
  rfl

/-- `b64decode` ignores every ASCII character outside the alphabet other than `=` (line
breaks, spaces): dropping them all leaves its result, bytes or error, unchanged. -/
theorem b64decode_skips_junk (s : String) :
    b64decode ⟨s.data.filter fun ch => decide (128 ≤ ch.toNat) ||
      UInt8.ofNat ch.toNat == pad || (a2bTable (UInt8.ofNat ch.toNat)).isSome⟩ = b64decode s := by
  by_cases h : ∀ ch ∈ s.data, ch.toNat < 128
  · have hfil : (s.data.filter fun ch => decide (128 ≤ ch.toNat) ||
        UInt8.ofNat ch.toNat == pad || (a2bTable (UInt8.ofNat ch.toNat)).isSome) =
        s.data.filter ((fun c => c == pad || (a2bTable c).isSome) ∘
          fun ch => UInt8.ofNat ch.toNat) :=
      List.filter_congr fun ch hch => by simp [Nat.not_le.mpr (h ch hch)]
    rw [b64decode_of_ascii h, b64decode_of_ascii fun ch hch => h ch (List.mem_filter.mp hch).1,
      a2bBase64, a2bBase64, hfil, ← List.filter_map, a2bLoop_filter]
  · obtain ⟨ch, hch, hn⟩ : ∃ ch ∈ s.data, ¬ch.toNat < 128 := by simpa using h
    rw [b64decode_of_not_ascii hch hn,
      b64decode_of_not_ascii (List.mem_filter.mpr ⟨hch, by simp [Nat.not_lt.mp hn]⟩) hn]

/-- The decoder's state after `k` data characters from the start and no pad: quad position
`k % 4`, and `3 * (k / 4) + (k % 4 - 1)` bytes written. -/
def Fed (st : A2bState) (k : Nat) : Prop :=
  st.quadPos = k % 4 ∧ st.out.length = 3 * (k / 4) + (k % 4 - 1)

theorem Fed.feed {st : A2bState} {k : Nat} (h : Fed st k) (v : Nat) : Fed (st.feed v) (k + 1) := by
  obtain ⟨hq, ho⟩ := h
  have hk : k % 4 = 0 ∨ k % 4 = 1 ∨ k % 4 = 2 ∨ k % 4 = 3 := by omega
  rcases hk with hk | hk | hk | hk <;>
    simp only [Fed, A2bState.feed, hq, hk, List.length_append, List.length_singleton] <;> omega

theorem a2bLoop_unpadded {st : A2bState} {k : Nat} (h : Fed st k) :
    ∀ cs : List UInt8, pad ∉ cs →
      ∃ st', Fed st' (k + (cs.filterMap a2bTable).length) ∧ a2bLoop st cs = st'.finish
  | [], _ => ⟨st, h, rfl⟩
  | c :: cs, hcs => by
    have hc : c ≠ pad := fun he => hcs (he ▸ List.mem_cons_self c cs)
    have hcs' : pad ∉ cs := fun hm => hcs (List.mem_cons_of_mem c hm)
    cases hv : a2bTable c with
    | none =>
      obtain ⟨st', h', hr⟩ := a2bLoop_unpadded h cs hcs'
      exact ⟨st', by simpa [hv] using h', by rw [a2bLoop, if_neg hc, hv]; exact hr⟩
    | some v =>
      obtain ⟨st', h', hr⟩ := a2bLoop_unpadded (h.feed v) cs hcs'
      refine ⟨st', by simpa [hv, Nat.add_assoc, Nat.add_comm 1] using h', ?_⟩
      rw [a2bLoop, if_neg hc, hv]
      exact hr

theorem byte_ne_pad {ch : Char} (h : ch.toNat < 128) (hne : ch ≠ '=') :
    UInt8.ofNat ch.toNat ≠ pad := by
  intro he
  have h61 : ch.toNat % 256 = 61 := congrArg UInt8.toNat he
  exact hne (Char.eq_of_val_eq (UInt32.eq_of_val_eq (Fin.ext (by
    show ch.toNat = 61
    omega))))

/-- On an ASCII text without `=`, `b64decode` succeeds exactly when the number `k` of
alphabet characters is a multiple of 4, with `3 * (k / 4)` bytes; with `k % 4 = 1` it
fails reporting `k` data characters, and with `k % 4` 2 or 3 on incorrect padding. -/
theorem b64decode_unpadded (s : String) (hs : ∀ ch ∈ s.data, ch.toNat < 128 ∧ ch ≠ '=')
    {k : Nat} (hk : (s.data.filterMap fun ch => a2bTable (UInt8.ofNat ch.toNat)).length = k) :
    (k % 4 = 0 → ∃ bs, b64decode s = .ok bs ∧ bs.length = 3 * (k / 4)) ∧
    (k % 4 = 1 → b64decode s = .error (.excessDataChar k)) ∧
    (2 ≤ k % 4 → b64decode s = .error .incorrectPadding) := by
  have hpad : pad ∉ s.data.map fun ch => UInt8.ofNat ch.toNat := by
    simp only [List.mem_map, not_exists, not_and]
    exact fun ch hch => byte_ne_pad (hs ch hch).1 (hs ch hch).2
  obtain ⟨st, ⟨hq, ho⟩, hr⟩ := @a2bLoop_unpadded ⟨0, 0, 0, []⟩ 0 ⟨rfl, rfl⟩ _ hpad
  simp only [Nat.zero_add, List.filterMap_map, Function.comp_def, hk] at hq ho
  rw [b64decode_of_ascii fun ch hch => (hs ch hch).1, a2bBase64, hr, A2bState.finish]
  refine ⟨fun h0 => ⟨st.out, by rw [if_pos (by omega)], by omega⟩, fun h1 => ?_, fun h2 => ?_⟩
  · rw [if_neg (by omega), if_pos (by omega), ho]
    congr 2
    omega
  · rw [if_neg (by omega), if_neg (by omega)]

theorem b64decode_unpadded_man :
    (∀ ch ∈ "TWFu".data, ch.toNat < 128 ∧ ch ≠ '=') ∧
    ("TWFu".data.filterMap fun ch => a2bTable (UInt8.ofNat ch.toNat)).length = 4 ∧
    (4 % 4 = 0 → ∃ bs, b64decode "TWFu" = .ok bs ∧ bs.length = 3 * (4 / 4)) ∧
    (4 % 4 = 1 → b64decode "TWFu" = .error (.excessDataChar 4)) ∧
    (2 ≤ 4 % 4 → b64decode "TWFu" = .error .incorrectPadding) :=
  ⟨by decide, by decide, b64decode_unpadded "TWFu" (by decide) (by decide)⟩

/-! ### Decoding a concatenation -/

/-- A decoding result as seen by a decoder whose output already holds `pre`, whole groups
of three bytes: the bytes come after `pre`, and an excess-data error counts the four
characters of each group of `pre` too. -/
def withLeading (pre : List UInt8) : Except DecodeError (List UInt8) → Except DecodeError (List UInt8)
  | .ok x => .ok (pre ++ x)
  | .error (.excessDataChar k) => .error (.excessDataChar (pre.length / 3 * 4 + k))
  | .error ε => .error ε

theorem feed_out_append (pre out : List UInt8) (q l p v : Nat) :
    (⟨q, l, p, pre ++ out⟩ : A2bState).feed v =
      ⟨((⟨q, l, p, out⟩ : A2bState).feed v).quadPos, ((⟨q, l, p, out⟩ : A2bState).feed v).leftchar,
        ((⟨q, l, p, out⟩ : A2bState).feed v).pads, pre ++ ((⟨q, l, p, out⟩ : A2bState).feed v).out⟩ := by
  rcases q with _ | _ | _ | q <;> simp [A2bState.feed]

theorem a2bLoop_out_append {pre : List UInt8} (hpre : pre.length % 3 = 0) (cs : List UInt8) :
    ∀ q l p out, a2bLoop ⟨q, l, p, pre ++ out⟩ cs = withLeading pre (a2bLoop ⟨q, l, p, out⟩ cs) := by
  induction cs with
  | nil =>
    intro q l p out
    simp only [a2bLoop, A2bState.finish, List.length_append]
    split_ifs <;> simp only [withLeading, DecodeError.excessDataChar.injEq, Except.error.injEq]
    omega
  | cons c cs ih =>
    intro q l p out
    simp only [a2bLoop]
    by_cases hc : c = pad
    · simp only [hc, if_true]
      split_ifs
      · rfl
      · exact ih q l (p + 1) out
      · exact ih q l p out
    · simp only [hc, if_false]
      cases a2bTable c with
      | none => exact ih q l p out
      | some v =>
        dsimp only
        rw [feed_out_append]
        exact ih _ _ _ _

theorem asciiBytes_eq_ok {s : String} {bs : List UInt8} (h : asciiBytes s = .ok bs) :
    (∀ ch ∈ s.data, ch.toNat < 128) ∧ s.data.map (fun ch => UInt8.ofNat ch.toNat) = bs := by
  unfold asciiBytes at h
  split at h
  · next hall => exact ⟨by simpa using hall, Except.ok.inj h⟩
  · cases h

/-- `b64decode` reads a concatenation of encodings. After the encoding of `bs` as
`encode_executable` stores it, decoding goes on with the rest `t` when `bs` fills whole
groups of three bytes (an excess-data error then counts the data characters of both
parts); otherwise it stops at the padding and ignores `t`. -/
theorem b64decode_append (bs : List UInt8) (t : String) (ht : ∀ ch ∈ t.data, ch.toNat < 128) :
    ∃ s, bytesDecode (b64encode bs) = .ok s ∧
      b64decode (s ++ t) = if bs.length % 3 = 0 then withLeading bs (b64decode t) else .ok bs := by
  obtain ⟨s, hs, ha⟩ := asciiBytes_bytesDecode (b64encode_ascii bs)
  obtain ⟨hsa, hsb⟩ := asciiBytes_eq_ok ha
  have hst : ∀ ch ∈ (s ++ t).data, ch.toNat < 128 := by
    rw [String.data_append]
    exact fun ch hch => (List.mem_append.mp hch).elim (hsa ch) (ht ch)
  refine ⟨s, hs, ?_⟩
  rw [b64decode_of_ascii hst, b64decode_of_ascii ht, a2bBase64, a2bBase64, String.data_append, List.map_append, hsb,
    a2bLoop_b64encode_append, List.nil_append]
  split_ifs with h
  · rw [← List.append_nil bs, a2bLoop_out_append (by simpa using h), List.append_nil]
  · rfl

theorem b64decode_append_trailing :
    (∀ ch ∈ "QUJD".data, ch.toNat < 128) ∧
    ∃ s, bytesDecode (b64encode [77]) = .ok s ∧
      b64decode (s ++ "QUJD") =
        if [77].length % 3 = 0 then withLeading [77] (b64decode "QUJD") else .ok [77] :=
  ⟨by decide, b64decode_append [77] "QUJD" (by decide)⟩

end Tripy.Base64
