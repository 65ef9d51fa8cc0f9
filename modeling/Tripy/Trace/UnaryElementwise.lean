import Tripy.Common

/-! `UnaryElementwise` (tripy/frontend/trace/ops/unary_elementwise.py): the eight public
unary functions, the trace op each builds, and the op's lowering through the dictionary of
`to_flat_ir`. `BaseTraceOp.build` and the flat ops' `build` are not under src/: an op is
recorded with the tensors it is built on. -/
namespace Tripy.UnaryElementwise

/-- `UnaryElementwise.Kind`. -/
inductive Kind where
  | exp | tanh | rsqrt | log | sine | cosine | sqrt | abs
  deriving DecidableEq, Repr

/-- The flat-IR op classes `to_flat_ir` imports. -/
inductive OpType where
  | expOp | tanhOp | rsqrtOp | logOp | sineOp | cosineOp | sqrtOp | absOp
  deriving DecidableEq, Repr

/-- The dictionary literal of `to_flat_ir`, entry by entry. -/
def opTypes : List (Kind × OpType) :=
  [(.exp, .expOp), (.tanh, .tanhOp), (.rsqrt, .rsqrtOp), (.log, .logOp), (.sine, .sineOp),
    (.cosine, .cosineOp), (.sqrt, .sqrtOp), (.abs, .absOp)]

/-- A `UnaryElementwise` trace op: its inputs and its kind. -/
structure TraceOp where
  inputs : List Tensor
  kind : Kind
  deriving DecidableEq, Repr

/-- The op `OpType.build(inputs, outputs)` adds to the flat IR. -/
structure FlatOp (τ : Type) where
  opType : OpType
  inputs : List τ
  outputs : List τ
  deriving DecidableEq, Repr

/-- `to_flat_ir`; `none` is the `KeyError` of a kind the dictionary lacks. -/
def toFlatIr {τ : Type} (op : TraceOp) (inputs outputs : List τ) : Option (FlatOp τ) :=
  (opTypes.lookup op.kind).map fun opType => ⟨opType, inputs, outputs⟩

/-- `UnaryElementwise.build([input], kind)`. -/
def build (input : Tensor) (kind : Kind) : TraceOp := ⟨[input], kind⟩

/-- `exp(input)`. -/
def exp (input : Tensor) : TraceOp := build input .exp
/-- `tanh(input)`. -/
def tanh (input : Tensor) : TraceOp := build input .tanh
/-- `sin(input)`. -/
def sin (input : Tensor) : TraceOp := build input .sine
/-- `cos(input)`. -/
def cos (input : Tensor) : TraceOp := build input .cosine
/-- `rsqrt(input)`. -/
def rsqrt (input : Tensor) : TraceOp := build input .rsqrt
/-- `sqrt(input)`. -/
def sqrt (input : Tensor) : TraceOp := build input .sqrt
/-- `log(input)`. -/
def log (input : Tensor) : TraceOp := build input .log

/-- `abs(input)`, the one function with a check of its own. -/
def abs (input : Tensor) : Except String TraceOp :=
  if input.dtype = .int64 then
    .error "Known issue with i64. Abs currently does not work with int64 inputs. Issue #116"
  else .ok (build input .abs)

end Tripy.UnaryElementwise
