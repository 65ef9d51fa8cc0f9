import Mathlib.Data.List.Basic

/-! Data types and tensors as the modelled code reads them. A frontend tensor is seen
through its `dtype` and `shape` only: no modelled function reads its values. -/
namespace Tripy

/-- The `tripy.common.datatype` members named in the modelled sources. -/
inductive DataType where
  | float32 | float16 | bfloat16 | float8 | int8 | int32 | int64 | bool
  deriving DecidableEq, Repr

/-- Bytes per element of a host buffer of this type (`bool` is stored one byte each). -/
def DataType.itemsize : DataType → Nat
  | .float32 | .int32 => 4
  | .float16 | .bfloat16 => 2
  | .float8 | .int8 | .bool => 1
  | .int64 => 8

/-- A frontend `Tensor`: its `dtype` and its concrete `shape`. -/
structure Tensor where
  dtype : DataType
  shape : List Int
  deriving DecidableEq, Repr

end Tripy
