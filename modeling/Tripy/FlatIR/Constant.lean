import Mathlib.Data.List.Sort
import Mathlib.Data.List.Lex
import Mathlib.Algebra.BigOperators.Group.List
import Mathlib.Algebra.Order.Ring.Nat
import Tripy.Runtime.MemRef

/-! `ConstantOp.to_mlir` (tripy/flat_ir/ops/constant.py). Host data given as nested
Python sequences is flattened by the local `to_attrs` into one scalar attribute per leaf;
a `MemRefValue` becomes a `DenseElementsAttr` over its buffer, boolean buffers by way of
an `int32` copy and a `stablehlo.convert`; that copy flattens the buffer with
`memoryview.cast`, which refuses an empty view of other than one dimension. `get_mlir_scalar_attr` is not under src/: it is
a parameter, as is the type of the Python numbers at the leaves. -/
namespace Tripy.Constant

/-- Data made of `numbers.Number` leaves and non-string sequences. -/
inductive PyData (ν : Type) where
  | number (x : ν)
  | seq (xs : List (PyData ν))

namespace PyData
variable {ν α : Type}

/-- `data[i₀][i₁]...`: the leaf at a path of indices, if there is one. -/
def get? : PyData ν → List Nat → Option ν
  | .number x, [] => some x
  | .seq xs, i :: p => match xs[i]? with
    | some x => x.get? p
    | none => none
  | _, _ => none

/-- A regular nested list of shape `s`: every sequence at depth `k` has `s[k]` elements,
and the leaves are at depth `s.length`. -/
def Regular : PyData ν → List Nat → Prop
  | .number _, [] => True
  | .seq xs, n :: s => xs.length = n ∧ ∀ x ∈ xs, Regular x s
  | _, _ => False

end PyData

variable {ν α : Type} (scalarAttr : ν → α)

mutual
/-- The local `to_attrs` of `to_mlir`, with `scalarAttr` standing for
`mlir_utils.get_mlir_scalar_attr(out_dtype, ·)`. -/
def toAttrs : PyData ν → List α
  | .number x => [scalarAttr x]
  | .seq xs => extendAttrs [] xs

/-- `for element in data: attrs.extend(to_attrs(element))`. -/
def extendAttrs (attrs : List α) : List (PyData ν) → List α
  | [] => attrs
  | e :: es => extendAttrs (attrs ++ toAttrs e) es
end

theorem extendAttrs_eq (attrs : List α) (xs : List (PyData ν)) :
    extendAttrs scalarAttr attrs xs = attrs ++ xs.flatMap (toAttrs scalarAttr) := by
  induction xs generalizing attrs with
  | nil => simp [extendAttrs]
  | cons e es ih => simp [extendAttrs, ih]

@[simp] theorem toAttrs_number (x : ν) : toAttrs scalarAttr (.number x) = [scalarAttr x] := by
  simp [toAttrs]

@[simp] theorem toAttrs_seq (xs : List (PyData ν)) :
    toAttrs scalarAttr (.seq xs) = xs.flatMap (toAttrs scalarAttr) := by
  simp [toAttrs, extendAttrs_eq]

/-! ### Leaves in depth-first order -/

mutual
/-- The paths of the leaves, depth first and left to right. -/
def leafPaths : PyData ν → List (List Nat)
  | .number _ => [[]]
  | .seq xs => leafPathsFrom 0 xs

/-- The leaf paths of the sequences `xs`, the first of them at index `i`. -/
def leafPathsFrom (i : Nat) : List (PyData ν) → List (List Nat)
  | [] => []
  | x :: xs => (leafPaths x).map (i :: ·) ++ leafPathsFrom (i + 1) xs
end

theorem get?_seq_cons (x : PyData ν) (xs : List (PyData ν)) (i : Nat) (p : List Nat) :
    (PyData.seq (x :: xs)).get? ((i + 1) :: p) = (PyData.seq xs).get? (i :: p) := by
  simp [PyData.get?]

mutual
theorem toAttrs_eq_leafPaths : ∀ d : PyData ν,
    toAttrs scalarAttr d = (leafPaths d).filterMap fun p => (d.get? p).map scalarAttr
  | .number x => by simp [leafPaths, PyData.get?]
  | .seq xs => by
    rw [toAttrs_seq, leafPaths, flatMap_toAttrs_eq xs 0 (PyData.seq xs).get? fun j q => by rw [Nat.zero_add]]

theorem flatMap_toAttrs_eq : ∀ (xs : List (PyData ν)) (i : Nat) (g : List Nat → Option ν),
    (∀ j q, g ((i + j) :: q) = (PyData.seq xs).get? (j :: q)) →
    xs.flatMap (toAttrs scalarAttr) =
      (leafPathsFrom i xs).filterMap fun p => (g p).map scalarAttr
  | [], _, _, _ => by simp [leafPathsFrom]
  | x :: xs, i, g, hg => by
    have h0 : ∀ q, g (i :: q) = x.get? q := fun q => by simpa [PyData.get?] using hg 0 q
    have h1 : ∀ j q, g ((i + 1 + j) :: q) = (PyData.seq xs).get? (j :: q) := fun j q => by
      simpa [Nat.add_assoc, Nat.add_comm 1 j, get?_seq_cons] using hg (j + 1) q
    rw [List.flatMap_cons, leafPathsFrom, List.filterMap_append, List.filterMap_map,
      toAttrs_eq_leafPaths x, flatMap_toAttrs_eq xs (i + 1) g h1]
    congr 1
    exact List.filterMap_congr fun q _ => by simp [h0]
end

mutual
theorem mem_leafPaths : ∀ (d : PyData ν) (p : List Nat), p ∈ leafPaths d ↔ (d.get? p).isSome
  | .number _, [] => by simp [leafPaths, PyData.get?]
  | .number _, _ :: _ => by simp [leafPaths, PyData.get?]
  | .seq xs, [] => by
    simp only [leafPaths, PyData.get?, Option.isSome_none, Bool.false_eq_true, iff_false]
    intro h
    obtain ⟨_, _, hq, _⟩ := (mem_leafPathsFrom xs 0 []).mp h
    exact List.noConfusion hq
  | .seq xs, j :: q => by
    rw [leafPaths, mem_leafPathsFrom xs 0]
    simp only [Nat.zero_add, List.cons.injEq]
    exact ⟨fun ⟨_, _, ⟨rfl, rfl⟩, h⟩ => h, fun h => ⟨j, q, ⟨rfl, rfl⟩, h⟩⟩

theorem mem_leafPathsFrom : ∀ (xs : List (PyData ν)) (i : Nat) (p : List Nat),
    p ∈ leafPathsFrom i xs ↔ ∃ j q, p = (i + j) :: q ∧ ((PyData.seq xs).get? (j :: q)).isSome
  | [], _, _ => by simp [leafPathsFrom, PyData.get?]
  | x :: xs, i, p => by
    rw [leafPathsFrom, List.mem_append, List.mem_map, mem_leafPathsFrom xs (i + 1) p]
    constructor
    · rintro (⟨q, hq, rfl⟩ | ⟨j, q, rfl, hj⟩)
      · exact ⟨0, q, rfl, by simpa [PyData.get?] using (mem_leafPaths x q).mp hq⟩
      · exact ⟨j + 1, q, by rw [Nat.add_right_comm, Nat.add_assoc], by
          rwa [get?_seq_cons]⟩
    · rintro ⟨j, q, rfl, hj⟩
      cases j with
      | zero =>
        exact .inl ⟨q, (mem_leafPaths x q).mpr (by simpa [PyData.get?] using hj), rfl⟩
      | succ j =>
        exact .inr ⟨j, q, by rw [Nat.add_right_comm, Nat.add_assoc], by
          rwa [get?_seq_cons] at hj⟩
end

mutual
/-- Leaf paths come in strictly increasing lexicographic order. -/
theorem sorted_leafPaths : ∀ d : PyData ν, (leafPaths d).Sorted (List.Lex (· < ·))
  | .number _ => by simp [leafPaths]
  | .seq xs => sorted_leafPathsFrom xs 0

theorem sorted_leafPathsFrom : ∀ (xs : List (PyData ν)) (i : Nat),
    (leafPathsFrom i xs).Sorted (List.Lex (· < ·))
  | [], _ => List.sorted_nil
  | x :: xs, i => by
    rw [leafPathsFrom, List.Sorted, List.pairwise_append, List.pairwise_map]
    refine ⟨(sorted_leafPaths x).imp List.Lex.cons, sorted_leafPathsFrom xs (i + 1), ?_⟩
    intro a ha b hb
    obtain ⟨q, -, rfl⟩ := List.mem_map.mp ha
    obtain ⟨j, q', rfl, -⟩ := (mem_leafPathsFrom xs (i + 1) b).mp hb
    exact List.Lex.rel (by omega)
end

/-! ### Regular data in row-major order -/

/-- Row-major (C order) position of the multi-index `idx` in shape `s`. -/
def rowMajorIndex : List Nat → List Nat → Nat
  | _ :: s, i :: idx => i * s.prod + rowMajorIndex s idx
  | _, _ => 0

theorem rowMajorIndex_lt {s idx : List Nat} (h : List.Forall₂ (· < ·) idx s) :
    rowMajorIndex s idx < s.prod := by
  induction h with
  | nil => simp [rowMajorIndex]
  | @cons i n idx s hi _ ih =>
    simp only [rowMajorIndex, List.prod_cons]
    calc i * s.prod + rowMajorIndex s idx < i * s.prod + s.prod := by omega
      _ = (i + 1) * s.prod := (Nat.succ_mul i s.prod).symm
      _ ≤ n * s.prod := Nat.mul_le_mul_right _ hi

section Blocks
variable {β γ : Type} {g : β → List γ} {m : Nat}

theorem length_flatMap_of_length_eq :
    ∀ {xs : List β}, (∀ x ∈ xs, (g x).length = m) → (xs.flatMap g).length = xs.length * m
  | [], _ => by simp
  | x :: xs, h => by
    rw [List.flatMap_cons, List.length_append, h x (List.mem_cons_self x xs),
      length_flatMap_of_length_eq fun y hy => h y (List.mem_cons_of_mem x hy),
      List.length_cons, Nat.succ_mul, Nat.add_comm]

/-- Element `r` of block `i` of a concatenation of blocks of length `m`. -/
theorem getElem?_flatMap_of_length_eq :
    ∀ {xs : List β}, (∀ x ∈ xs, (g x).length = m) → ∀ {i r : Nat}, r < m →
      (xs.flatMap g)[i * m + r]? = xs[i]?.bind fun x => (g x)[r]?
  | [], _, _, _, _ => by simp
  | x :: xs, h, 0, r, hr => by
    rw [List.flatMap_cons, Nat.zero_mul, Nat.zero_add,
      List.getElem?_append_left (by rw [h x (List.mem_cons_self x xs)]; exact hr)]
    simp
  | x :: xs, h, i + 1, r, hr => by
    have hx := h x (List.mem_cons_self x xs)
    rw [List.flatMap_cons, List.getElem?_append_right (by rw [hx, Nat.succ_mul]; omega), hx,
      show (i + 1) * m + r - m = i * m + r by rw [Nat.succ_mul]; omega,
      getElem?_flatMap_of_length_eq (fun y hy => h y (List.mem_cons_of_mem x hy)) hr]
    simp

end Blocks

theorem toAttrs_regular : ∀ {s : List Nat} {d : PyData ν}, d.Regular s →
    (toAttrs scalarAttr d).length = s.prod ∧
    ∀ idx, List.Forall₂ (· < ·) idx s →
      (toAttrs scalarAttr d)[rowMajorIndex s idx]? = (d.get? idx).map scalarAttr
  | [], .number x, _ => by
    refine ⟨by simp, fun idx h => ?_⟩
    rw [List.forall₂_nil_right_iff.mp h]
    simp [rowMajorIndex, PyData.get?]
  | n :: s, .seq xs, ⟨hlen, hreg⟩ => by
    have ih := fun x (hx : x ∈ xs) => toAttrs_regular (s := s) (hreg x hx)
    have hblock : ∀ x ∈ xs, (toAttrs scalarAttr x).length = s.prod := fun x hx => (ih x hx).1
    refine ⟨by rw [toAttrs_seq, length_flatMap_of_length_eq hblock, hlen, List.prod_cons],
      fun idx h => ?_⟩
    obtain ⟨i, idx', -, h', rfl⟩ := List.forall₂_cons_right_iff.mp h
    rw [toAttrs_seq, rowMajorIndex, getElem?_flatMap_of_length_eq hblock (rowMajorIndex_lt h')]
    rcases hx : xs[i]? with _ | x
    · simp [PyData.get?, hx]
    · simp [PyData.get?, hx, (ih x (List.getElem?_mem hx)).2 idx' h']
  | [], .seq _, h => h.elim
  | _ :: _, .number _, h => h.elim

/-- `to_attrs` gives one attribute per leaf, `get_mlir_scalar_attr(out_dtype, leaf)`, in
depth-first left-to-right order, that is in the lexicographic order of the leaves' index
paths; on a regular nested list of shape `s` these are `prod(s)` attributes in row-major
order. -/
theorem toAttrs_flattens (d : PyData ν) :
    (∃ paths : List (List Nat), paths.Sorted (List.Lex (· < ·)) ∧
      (∀ p, p ∈ paths ↔ (d.get? p).isSome) ∧
      toAttrs scalarAttr d = paths.filterMap fun p => (d.get? p).map scalarAttr) ∧
    ∀ s, d.Regular s → (toAttrs scalarAttr d).length = s.prod ∧
      ∀ idx, List.Forall₂ (· < ·) idx s →
        (toAttrs scalarAttr d)[rowMajorIndex s idx]? = (d.get? idx).map scalarAttr :=
  ⟨⟨leafPaths d, sorted_leafPaths d, mem_leafPaths d, toAttrs_eq_leafPaths scalarAttr d⟩,
    fun _ h => toAttrs_regular scalarAttr h⟩

example : toAttrs id (.seq [.number 1, .seq [.number 2, .number 3], .seq []]) = [1, 2, 3] := by
  decide

/-! ### Lowering -/

/-- A ranked tensor type: `FlatIRTensor.to_mlir()` and `mlir_utils.make_mlir_tensor`. -/
structure TensorType where
  shape : List Nat
  dtype : DataType
  deriving DecidableEq, Repr

/-- `ir.DenseElementsAttr.get`, over a buffer (`array=`, `type=`, `shape=`) or over scalar
attributes (`attrs=`, `type=`). -/
inductive DenseElementsAttr (α : Type) where
  | ofArray (bytes : List UInt8) (type : DataType) (shape : List Nat)
  | ofAttrs (attrs : List α) (type : TensorType)

/-- The stablehlo ops `to_mlir` builds. -/
inductive StablehloOp (α : Type) where
  | constant (attr : DenseElementsAttr α)
  | convert (result : TensorType) (operand : StablehloOp α)

/-- `self.data`. -/
inductive ConstantData (ν : Type) where
  | memRefValue (m : MemRefValue)
  | sequence (d : PyData ν)

/-- A flat-IR `ConstantOp`: its data and its output `self.outputs[0]`. -/
structure ConstantOp (ν : Type) where
  data : ConstantData ν
  output : TensorType

/-- `ConstantOp.to_mlir`, with `getMlirScalarAttr` standing for
`mlir_utils.get_mlir_scalar_attr`. -/
def ConstantOp.toMlir (getMlirScalarAttr : DataType → ν → α) (op : ConstantOp ν) :
    Except MemRefError (List (StablehloOp α)) :=
  match op.data with
  | .memRefValue m =>
    let dataMemref := if m.addressSpace = .device then m.copyToHost else m
    if op.output.dtype = .bool then do
      let intMemref ← createMemref (← arrayI (← dataMemref.castB)) m.shape .int32
      let attr := DenseElementsAttr.ofArray intMemref.bytes .int32 dataMemref.shape
      let castOutput : TensorType := ⟨dataMemref.shape, .bool⟩
      return [.convert castOutput (.constant attr)]
    else
      return [.constant (.ofArray dataMemref.bytes op.output.dtype dataMemref.shape)]
  | .sequence d =>
    return [.constant (.ofAttrs (toAttrs (getMlirScalarAttr op.output.dtype) d) op.output)]

/-! ### What the boolean branch denotes -/

/-- An element of a tensor value. -/
inductive Element where
  | int (z : Int)
  | bool (b : Bool)
  deriving DecidableEq, Repr

/-- `stablehlo.convert` of one element to `i1`: nonzero is true. -/
def Element.toBool : Element → Element
  | .int z => .bool (z ≠ 0)
  | .bool b => .bool b

/-- The tensor (shape and row-major elements) that the ops of the boolean branch evaluate
to: a constant over an `int32` buffer, and its `convert` to `i1`. -/
def StablehloOp.value : StablehloOp α → Option (List Nat × List Element)
  | .constant (.ofArray bytes .int32 shape) => some (shape, (decodeI32 bytes).map .int)
  | .convert ⟨shape, .bool⟩ operand => operand.value.map fun v => (shape, v.2.map Element.toBool)
  | _ => none

/-- The boolean tensor a `bool` memref holds: one byte per element, nonzero is true. -/
def boolValue (m : MemRefValue) : List Nat × List Element :=
  (m.shape, m.bytes.map fun b => .bool (b ≠ 0))

theorem dataMemref_spec (m : MemRefValue) :
    let dataMemref := if m.addressSpace = .device then m.copyToHost else m
    dataMemref.bytes = m.bytes ∧ dataMemref.shape = m.shape := by
  dsimp only
  split <;> exact ⟨rfl, rfl⟩

/-- The boolean branch of `to_mlir` on a memref, host or device, in terms of the memref:
the cast's `TypeError`, else the `int32` memref over its signed bytes, converted. -/
theorem toMlir_bool_output (getMlirScalarAttr : DataType → ν → α) (m : MemRefValue)
    {out : TensorType} (hout : out.dtype = .bool) :
    ConstantOp.toMlir getMlirScalarAttr ⟨.memRefValue m, out⟩ =
      if m.shape.length ≠ 1 ∧ 0 ∈ m.shape then .error .typeError
      else (createMemref ((m.bytes.map signedByte).flatMap encodeI32) m.shape .int32).map
        fun intMemref => [.convert ⟨m.shape, .bool⟩ (.constant (.ofArray intMemref.bytes .int32 m.shape))] := by
  obtain ⟨-, hshape⟩ := dataMemref_spec m
  have hcast : (if m.addressSpace = .device then m.copyToHost else m).castB = m.castB := by
    split <;> rfl
  simp only [ConstantOp.toMlir, hout, if_true, hcast, hshape, bind, Except.bind]
  split_ifs with hc
  · rw [MemRefValue.castB_eq_error hc]
  · rw [MemRefValue.castB_eq_ok (by tauto)]
    simp only [arrayI_map_signedByte]
    cases createMemref ((m.bytes.map signedByte).flatMap encodeI32) m.shape .int32 <;> rfl

/-- The boolean branch of `to_mlir` on a memref that `memoryview.cast` accepts (one
dimension, or no zero-size dimension), host or device: a boolean memref of shape `s` is
lowered to an `int32` constant of shape `s` whose `k`-th element is zero exactly when the
memref's `k`-th element is, converted to an `i1` tensor of shape `s`; the result denotes the
memref's boolean tensor, element for element. -/
theorem toMlir_bool_memref (getMlirScalarAttr : DataType → ν → α) (m : MemRefValue)
    (out : TensorType) (hm : m.dtype = .bool) (hout : out.dtype = .bool)
    (hcast : m.shape.length = 1 ∨ 0 ∉ m.shape) :
    ∃ intMemref : MemRefValue, intMemref.dtype = .int32 ∧ intMemref.shape = m.shape ∧
      List.Forall₂ (fun z b => z = 0 ↔ b = 0) (decodeI32 intMemref.bytes) m.bytes ∧
      let lowered : StablehloOp α :=
        .convert ⟨m.shape, .bool⟩ (.constant (.ofArray intMemref.bytes .int32 m.shape))
      ConstantOp.toMlir getMlirScalarAttr ⟨.memRefValue m, out⟩ = .ok [lowered] ∧
        lowered.value = some (boolValue m) := by
  obtain ⟨im, hcreate⟩ := createMemref_ok_iff.mpr ((length_signedBytes_flatMap_iff m).mpr
    (.inl (by rw [hm]; rfl)))
  obtain ⟨hbytes, hsh, hdt⟩ := createMemref_eq_ok hcreate
  have hdec : decodeI32 im.bytes = m.bytes.map signedByte := by
    rw [hbytes, decodeI32_signedBytes]
  refine ⟨im, hdt, hsh, ?_, ?_, ?_⟩
  · rw [hdec, List.forall₂_map_left_iff, List.forall₂_same]
    exact fun b _ => signedByte_eq_zero_iff b
  · rw [toMlir_bool_output _ m hout, if_neg fun ⟨hl, hz⟩ => hcast.elim hl (· hz), hcreate]
    rfl
  · simp [StablehloOp.value, boolValue, hdec, Element.toBool, signedByte_eq_zero_iff]

/-- A device-resident boolean memref of shape `[3]` holding `[1, 0, 1]`. -/
def deviceBools : MemRefValue := ⟨.device, [3], .bool, [1, 0, 1], rfl⟩

theorem toMlir_bool_memref_device :
    deviceBools.dtype = .bool ∧ (⟨[3], .bool⟩ : TensorType).dtype = .bool ∧
    (deviceBools.shape.length = 1 ∨ 0 ∉ deviceBools.shape) ∧
    ∃ intMemref : MemRefValue, intMemref.dtype = .int32 ∧ intMemref.shape = deviceBools.shape ∧
      List.Forall₂ (fun z b => z = 0 ↔ b = 0) (decodeI32 intMemref.bytes) deviceBools.bytes ∧
      let lowered : StablehloOp Nat := .convert ⟨deviceBools.shape, .bool⟩
        (.constant (.ofArray intMemref.bytes .int32 deviceBools.shape))
      ConstantOp.toMlir (fun _ (x : Nat) => x) ⟨.memRefValue deviceBools, ⟨[3], .bool⟩⟩ =
        .ok [lowered] ∧ lowered.value = some (boolValue deviceBools) :=
  ⟨rfl, rfl, .inl rfl,
    toMlir_bool_memref (fun _ (x : Nat) => x) deviceBools ⟨[3], .bool⟩ rfl rfl (.inl rfl)⟩

/-- An empty boolean memref of rank two, shape `[2, 0]`. -/
def emptyBools : MemRefValue := ⟨.host, [2, 0], .bool, [], rfl⟩

/-- `memoryview(...).cast("b")`, used to flatten the view, refuses a view of rank two with a
zero-size dimension: an empty boolean constant of shape `[2, 0]` is not lowered. -/
theorem toMlir_bool_memref_empty_rank_two :
    ConstantOp.toMlir (fun _ (x : Nat) => x) ⟨.memRefValue emptyBools, ⟨[2, 0], .bool⟩⟩ =
      .error .typeError := rfl

/-- With a boolean output, `to_mlir` on a memref succeeds exactly when `memoryview.cast`
accepts the memref's view (one dimension, or no zero-size dimension) and the memref has one
byte per element or no element. It raises the cast's `TypeError` on the views the cast
refuses, and otherwise only the size mismatch of `create_memref`, whose `int32` copy has
four bytes per byte of the memref. -/
theorem toMlir_bool_output_ok_iff (getMlirScalarAttr : DataType → ν → α) (m : MemRefValue)
    (out : TensorType) (hout : out.dtype = .bool) :
    ((∃ ops, ConstantOp.toMlir getMlirScalarAttr ⟨.memRefValue m, out⟩ = .ok ops) ↔
      (m.shape.length = 1 ∨ 0 ∉ m.shape) ∧ (m.dtype.itemsize = 1 ∨ m.shape.prod = 0)) ∧
    ∀ ε, ConstantOp.toMlir getMlirScalarAttr ⟨.memRefValue m, out⟩ = .error ε →
      (ε = .typeError ∧ m.shape.length ≠ 1 ∧ 0 ∈ m.shape) ∨
        (ε = .sizeMismatch ∧ (m.shape.length = 1 ∨ 0 ∉ m.shape)) := by
  rw [toMlir_bool_output _ m hout]
  by_cases hc : m.shape.length ≠ 1 ∧ 0 ∈ m.shape
  · rw [if_pos hc]
    exact ⟨iff_of_false (fun ⟨_, h⟩ => by cases h) fun ⟨h, _⟩ => h.elim hc.1 (not_not.mpr hc.2),
      fun ε h => .inl ⟨(Except.error.inj h).symm, hc⟩⟩
  · have hc' : m.shape.length = 1 ∨ 0 ∉ m.shape := by tauto
    rw [if_neg hc, ← length_signedBytes_flatMap_iff, ← createMemref_ok_iff]
    cases hcr : createMemref ((m.bytes.map signedByte).flatMap encodeI32) m.shape .int32 with
    | error e =>
      refine ⟨iff_of_false (fun ⟨_, h⟩ => by cases h) (fun ⟨_, _, h⟩ => by cases h), fun ε h => ?_⟩
      cases h
      exact .inr ⟨createMemref_eq_error hcr, hc'⟩
    | ok im => exact ⟨iff_of_true ⟨_, rfl⟩ ⟨hc', im, rfl⟩, fun ε h => by cases h⟩

/-- A host `float32` memref holding `1.0`. -/
def hostOne : MemRefValue := ⟨.host, [1], .float32, [0, 0, 128, 63], rfl⟩

theorem toMlir_bool_output_ok_iff_float32 :
    (⟨[1], .bool⟩ : TensorType).dtype = .bool ∧
    ((∃ ops, ConstantOp.toMlir (fun _ (x : Nat) => x) ⟨.memRefValue hostOne, ⟨[1], .bool⟩⟩ =
        .ok ops) ↔ (hostOne.shape.length = 1 ∨ 0 ∉ hostOne.shape) ∧
          (hostOne.dtype.itemsize = 1 ∨ hostOne.shape.prod = 0)) ∧
    ∀ ε, ConstantOp.toMlir (fun _ (x : Nat) => x) ⟨.memRefValue hostOne, ⟨[1], .bool⟩⟩ =
      .error ε → (ε = .typeError ∧ hostOne.shape.length ≠ 1 ∧ 0 ∈ hostOne.shape) ∨
        (ε = .sizeMismatch ∧ (hostOne.shape.length = 1 ∨ 0 ∉ hostOne.shape)) :=
  ⟨rfl, toMlir_bool_output_ok_iff (fun _ (x : Nat) => x) hostOne ⟨[1], .bool⟩ rfl⟩

end Tripy.Constant
