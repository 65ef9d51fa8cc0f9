import Mathlib.Algebra.BigOperators.Group.List
import Mathlib.Algebra.Order.Ring.Nat
import Tripy.Common

/-! Host and device memrefs of the MLIR-TensorRT runtime as `ConstantOp.to_mlir` handles
them: a contiguous row-major buffer of `prod(shape) * itemsize` bytes, its
`memoryview(...).cast("b")` view, the `array.array("i", ...)` that view is copied into, and
`create_memref` over that array. A C `int` is four little-endian bytes, as on the
platforms the runtime targets. -/
namespace Tripy

/-- `runtime.PointerType`. -/
inductive PointerType where
  | host | pinnedHost | device | unified | unknown
  deriving DecidableEq, Repr

/-- A `runtime.MemRefValue`: address space, static shape, element type and its contiguous
row-major buffer, which holds exactly `prod(shape)` elements of `dtype`. -/
structure MemRefValue where
  addressSpace : PointerType
  shape : List Nat
  dtype : DataType
  bytes : List UInt8
  length_bytes : bytes.length = shape.prod * dtype.itemsize

/-- The exceptions the memref calls of `to_mlir` raise. -/
inductive MemRefError where
  /-- `memoryview(m).cast("b")` on a view whose number of dimensions is not one and whose
  shape holds a zero: CPython's `TypeError` "cannot cast view with zeros in shape or
  strides". -/
  | typeError
  /-- `array.array("i", ...)` given a value that does not fit a C `int`. -/
  | overflowError
  /-- `create_memref` given a buffer that does not hold `prod(shape)` elements. -/
  | sizeMismatch
  deriving DecidableEq, Repr

/-- One byte read as a C `signed char`, format `"b"`. -/
def signedByte (b : UInt8) : Int := if b.toNat < 128 then b.toNat else b.toNat - 256

/-- The four little-endian bytes of a C `int` (32-bit two's complement). -/
def encodeI32 (z : Int) : List UInt8 :=
  let n := (z % 4294967296).toNat
  [UInt8.ofNat n, UInt8.ofNat (n / 256), UInt8.ofNat (n / 65536), UInt8.ofNat (n / 16777216)]

/-- The C `int` held by four little-endian bytes. -/
def decodeI32Word (b0 b1 b2 b3 : UInt8) : Int :=
  let n := b0.toNat + 256 * b1.toNat + 65536 * b2.toNat + 16777216 * b3.toNat
  if n < 2147483648 then n else n - 4294967296

/-- The C `int`s of a buffer, four bytes each, in order. -/
def decodeI32 : List UInt8 → List Int
  | b0 :: b1 :: b2 :: b3 :: rest => decodeI32Word b0 b1 b2 b3 :: decodeI32 rest
  | _ => []

/-- `array.array("i", xs)`, as its buffer. -/
def arrayI (xs : List Int) : Except MemRefError (List UInt8) :=
  if xs.all fun x => -2147483648 ≤ x ∧ x < 2147483648 then .ok (xs.flatMap encodeI32)
  else .error .overflowError

/-- `runtime_client.create_memref(buf, shape=shape, dtype=dtype, device=None)`: a host
memref over `buf`. -/
def createMemref (buf : List UInt8) (shape : List Nat) (dtype : DataType) :
    Except MemRefError MemRefValue :=
  if h : buf.length = shape.prod * dtype.itemsize then .ok ⟨.host, shape, dtype, buf, h⟩
  else .error .sizeMismatch

namespace MemRefValue

/-- `runtime_client.copy_to_host(device_memref=m, stream=None)`. -/
def copyToHost (m : MemRefValue) : MemRefValue := { m with addressSpace := .host }

/-- `memoryview(m).cast("b").tolist()`: the buffer flattened to signed bytes. The view has
the memref's shape, and CPython refuses to cast a view of other than one dimension that has
a zero-size dimension. -/
def castB (m : MemRefValue) : Except MemRefError (List Int) :=
  if m.shape.length ≠ 1 ∧ 0 ∈ m.shape then .error .typeError else .ok (m.bytes.map signedByte)

@[simp] theorem copyToHost_shape (m : MemRefValue) : m.copyToHost.shape = m.shape := rfl
@[simp] theorem copyToHost_dtype (m : MemRefValue) : m.copyToHost.dtype = m.dtype := rfl
@[simp] theorem copyToHost_bytes (m : MemRefValue) : m.copyToHost.bytes = m.bytes := rfl
@[simp] theorem copyToHost_castB (m : MemRefValue) : m.copyToHost.castB = m.castB := rfl

theorem castB_eq_ok {m : MemRefValue} (h : m.shape.length = 1 ∨ 0 ∉ m.shape) :
    m.castB = .ok (m.bytes.map signedByte) :=
  if_neg fun ⟨hl, hz⟩ => h.elim hl (· hz)

theorem castB_eq_error {m : MemRefValue} (h : m.shape.length ≠ 1 ∧ 0 ∈ m.shape) :
    m.castB = .error .typeError :=
  if_pos h

end MemRefValue

theorem toNat_uint8_ofNat (n : Nat) : (UInt8.ofNat n).toNat = n % 256 := rfl

theorem signedByte_mem_range (b : UInt8) :
    -2147483648 ≤ signedByte b ∧ signedByte b < 2147483648 := by
  have := b.toNat_lt_size
  simp only [UInt8.size] at this
  unfold signedByte
  split <;> omega

theorem signedByte_eq_zero_iff (b : UInt8) : signedByte b = 0 ↔ b = 0 := by
  have := b.toNat_lt_size
  simp only [UInt8.size] at this
  have hz : b = 0 ↔ b.toNat = 0 := ⟨fun h => h ▸ rfl, fun h => UInt8.toNat.inj h⟩
  rw [hz]
  unfold signedByte
  split <;> omega

theorem decodeI32Word_encodeI32 {z : Int} (h : -2147483648 ≤ z ∧ z < 2147483648) :
    decodeI32Word (UInt8.ofNat (z % 4294967296).toNat)
      (UInt8.ofNat ((z % 4294967296).toNat / 256))
      (UInt8.ofNat ((z % 4294967296).toNat / 65536))
      (UInt8.ofNat ((z % 4294967296).toNat / 16777216)) = z := by
  simp only [decodeI32Word, toNat_uint8_ofNat]
  split <;> omega

@[simp] theorem length_flatMap_encodeI32 (xs : List Int) :
    (xs.flatMap encodeI32).length = xs.length * 4 := by
  induction xs with
  | nil => rfl
  | cons x xs ih => simp only [List.flatMap_cons, List.length_append, ih, encodeI32]; simp; omega

/-- Reading back an `array.array("i", xs)` buffer as C `int`s gives `xs`. -/
theorem decodeI32_flatMap_encodeI32 :
    ∀ {xs : List Int}, (∀ x ∈ xs, -2147483648 ≤ x ∧ x < 2147483648) →
      decodeI32 (xs.flatMap encodeI32) = xs
  | [], _ => rfl
  | x :: xs, h => by
    rw [List.flatMap_cons, encodeI32, List.cons_append, List.cons_append, List.cons_append,
      List.cons_append, List.nil_append, decodeI32, decodeI32Word_encodeI32 (h x (List.mem_cons_self x xs)),
      decodeI32_flatMap_encodeI32 fun y hy => h y (List.mem_cons_of_mem x hy)]

theorem arrayI_map_signedByte (bs : List UInt8) :
    arrayI (bs.map signedByte) = .ok ((bs.map signedByte).flatMap encodeI32) := by
  have h : (bs.map signedByte).all (fun x => -2147483648 ≤ x ∧ x < 2147483648) = true := by
    simp only [List.all_eq_true, List.mem_map]
    rintro _ ⟨b, -, rfl⟩
    simpa using signedByte_mem_range b
  rw [arrayI, if_pos h]

theorem createMemref_eq_ok {buf : List UInt8} {shape : List Nat} {dtype : DataType}
    {m : MemRefValue} (h : createMemref buf shape dtype = .ok m) :
    m.bytes = buf ∧ m.shape = shape ∧ m.dtype = dtype := by
  unfold createMemref at h
  split at h
  · cases h
    exact ⟨rfl, rfl, rfl⟩
  · cases h

theorem createMemref_ok_iff {buf : List UInt8} {shape : List Nat} {dtype : DataType} :
    (∃ m, createMemref buf shape dtype = .ok m) ↔ buf.length = shape.prod * dtype.itemsize := by
  unfold createMemref
  split
  · exact iff_of_true ⟨_, rfl⟩ ‹_›
  · exact iff_of_false (fun ⟨_, h⟩ => nomatch h) ‹_›

theorem createMemref_eq_error {buf : List UInt8} {shape : List Nat} {dtype : DataType}
    {ε : MemRefError} (h : createMemref buf shape dtype = .error ε) : ε = .sizeMismatch := by
  unfold createMemref at h
  split at h <;> cases h
  rfl

/-- The `int` buffer of `m`'s signed bytes fits `m`'s shape as `int32` exactly when `m`
has one byte per element or no element. -/
theorem length_signedBytes_flatMap_iff (m : MemRefValue) :
    ((m.bytes.map signedByte).flatMap encodeI32).length = m.shape.prod * DataType.int32.itemsize ↔
      m.dtype.itemsize = 1 ∨ m.shape.prod = 0 := by
  rw [length_flatMap_encodeI32, List.length_map, m.length_bytes,
    show DataType.int32.itemsize = 4 from rfl, Nat.mul_right_cancel_iff (by decide),
    mul_right_eq_self₀]

theorem decodeI32_signedBytes (bs : List UInt8) :
    decodeI32 ((bs.map signedByte).flatMap encodeI32) = bs.map signedByte := by
  apply decodeI32_flatMap_encodeI32
  simp only [List.mem_map]
  rintro _ ⟨b, -, rfl⟩
  exact signedByte_mem_range b

end Tripy
