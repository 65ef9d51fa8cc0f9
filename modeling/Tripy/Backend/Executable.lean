import Tripy.Common
import Tripy.Backend.Base64

/-! The `Executable` of nvtripy/backend/api/executable.py as data: the compiled artifact,
the argument names and the output devices; what `__init__` derives from them; the
`ArgInfo` read off the artifact's signature; and the record `encode_executable` writes.
The artifact, its runtime scalar types and the devices are opaque: the runtime calls the
module makes on them are the fields of `Runtime`. -/
namespace Tripy
open Base64

/-- The exception type the runtime raises, with its `str(err)`. -/
structure MTRTException where
  message : String
  deriving DecidableEq, Repr

/-- `runtime.MemRefType(signature.get_arg(idx))`: its shape and scalar type. -/
structure MemRefType (σ : Type) where
  shape : List Int
  dtype : σ

/-- `signature.get_arg_bound(idx)`: the per-dimension `min()` and `max()` lists, both
empty for a static argument. -/
structure ArgBound where
  min : List Int
  max : List Int

/-- `executable.get_signature("main")`: one memref type and bound per argument, inputs
(`get_num_input_args()` of them) before outputs. -/
structure FunctionSignature (σ : Type) where
  inputs : List (MemRefType σ × ArgBound)
  outputs : List (MemRefType σ × ArgBound)

/-- The runtime calls of executable.py, on artifacts `A`, scalar types `σ` and devices
`δ`. `convertDtype` is `mlir_utils.convert_runtime_dtype_to_tripy_dtype`. -/
structure Runtime (A σ δ : Type) where
  load : List UInt8 → A
  serialize : A → List UInt8
  getSignature : A → FunctionSignature σ
  execute : A → List δ → List Tensor → Except MTRTException (List Tensor)
  convertDtype : σ → DataType

/-- The state `Executable.__init__` stores; everything else it sets is derived below. -/
structure Executable (A δ : Type) where
  executable : A
  argNames : List String
  outputDevices : List δ

/-- `ArgInfo`: a `(min, max)` window per dimension and the data type. -/
structure ArgInfo where
  shapeBounds : List (Int × Int)
  dtype : DataType
  deriving DecidableEq, Repr

/-- A return annotation of `__signature__`. -/
inductive Annotation where
  | tensor
  | sequenceOfTensor
  deriving DecidableEq, Repr

/-- `inspect.Signature(params, return_annotation=...)` with every parameter
POSITIONAL_OR_KEYWORD and annotated `Tensor`. -/
structure PySignature where
  params : List String
  returnAnnotation : Annotation
  deriving DecidableEq, Repr

namespace Executable
variable {A σ δ : Type} (rt : Runtime A σ δ) (e : Executable A δ)

/-- `self._num_expected_args`. -/
def numExpectedArgs : Nat := e.argNames.length

/-- `self._executable_signature`. -/
def executableSignature : FunctionSignature σ := rt.getSignature e.executable

/-- `self.__signature__`. -/
def signature : PySignature :=
  ⟨e.argNames, if (e.executableSignature rt).outputs.length = 1 then .tensor
    else .sequenceOfTensor⟩

/-- `_get_arg_info` on the memref type and bound of one argument. -/
def getArgInfo (arg : MemRefType σ × ArgBound) : ArgInfo :=
  let shapeBounds := arg.2.min.zip arg.2.max
  let shapeBounds := if shapeBounds.length = 0 then arg.1.shape.map fun x => (x, x)
    else shapeBounds
  ⟨shapeBounds, rt.convertDtype arg.1.dtype⟩

/-- An argument without bounds gets the windows `(x, x)` of its static shape. -/
theorem getArgInfo_shapeBounds_of_unbounded {arg : MemRefType σ × ArgBound}
    (h : (arg.2.min.zip arg.2.max).length = 0) :
    (getArgInfo rt arg).shapeBounds = arg.1.shape.map fun x => (x, x) := by
  simp [getArgInfo, h]

/-- `_get_input_info`. -/
def getInputInfo : List ArgInfo := (e.executableSignature rt).inputs.map (getArgInfo rt)

/-- `_get_output_info`. -/
def getOutputInfo : List ArgInfo := (e.executableSignature rt).outputs.map (getArgInfo rt)

end Executable

/-- The record `encode_executable` returns and `decode_executable` reads. -/
structure ExecutableRecord (δ : Type) where
  argNames : List String
  outputDevices : List δ
  executable : String

section Serialization
variable {A σ δ : Type} (rt : Runtime A σ δ)

/-- `encode_executable`: `base64.b64encode(executable.serialize()).decode()`. -/
def encodeExecutable (e : Executable A δ) : Except Unit (ExecutableRecord δ) := do
  let text ← bytesDecode (b64encode (rt.serialize e.executable))
  return ⟨e.argNames, e.outputDevices, text⟩

/-- `decode_executable`: `Executable(runtime.Executable(base64.b64decode(...)), ...)`. -/
def decodeExecutable (d : ExecutableRecord δ) : Except DecodeError (Executable A δ) := do
  let bytes ← b64decode d.executable
  return ⟨rt.load bytes, d.argNames, d.outputDevices⟩

/-- `decode_executable(encode_executable(e))` keeps `e`'s argument names and output
devices and loads its artifact from exactly the bytes `e`'s artifact serialized to. -/
theorem decode_encode_executable (e : Executable A δ) :
    ∃ r, encodeExecutable rt e = .ok r ∧
      decodeExecutable rt r = .ok ⟨rt.load (rt.serialize e.executable), e.argNames,
        e.outputDevices⟩ := by
  obtain ⟨s, hs, hd⟩ := b64decode_b64encode (rt.serialize e.executable)
  refine ⟨⟨e.argNames, e.outputDevices, s⟩, ?_, ?_⟩
  · rw [encodeExecutable, hs]; rfl
  · rw [decodeExecutable, hd]; rfl

end Serialization

end Tripy
