import Mathlib.Data.List.Infix
import Tripy.Backend.Binding
import Tripy.Backend.Executable

/-! `Executable.__call__` (executable.py, lines 155-235): bind the arguments, `eval()`
every input, run the executor, and on a runtime failure re-read the signature to raise a
precise error. A call returns what it did besides its result, so that "never partially
executes" is a statement about the returned log. `eval()` is taken to succeed: lazy
evaluation of the inputs is not part of this module. -/
namespace Tripy
open Binding

/-- Python's `pattern in text` on strings. -/
def containsStr (text pattern : String) : Bool := decide (pattern.data <:+: text.data)

/-- What a call does besides returning: `tensor.eval()` on an input, and the executor's
`execute` on the bound inputs. -/
inductive Event where
  | eval (t : Tensor)
  | execute (inputs : List Tensor)
  deriving DecidableEq, Repr

/-- The errors `__call__` raises, with the data their messages print. `runtime` is the
bare `raise` of the caught exception; `indexError` is Python's `IndexError` from
`expected_bounds[i]`. -/
inductive CallError where
  | bind (e : BindError)
  | unexpectedDtype (argName : String) (expected got : DataType) (tensor : Tensor)
  | unexpectedShape (argName : String) (minShape maxShape : List Int) (dim : Nat)
      (bound : Int × Int) (size : Int) (tensor : Tensor)
  | strideMismatch (message : String)
  | runtime (err : MTRTException)
  | indexError
  deriving DecidableEq, Repr

/-- First line of the message of the exception each error raises. -/
def CallError.summary : CallError → String
  | .bind e => e.summary
  | .unexpectedDtype .. => "Unexpected tensor data type."
  | .unexpectedShape .. => "Unexpected tensor shape."
  | .strideMismatch message => message
  | .runtime err => err.message
  | .indexError => "tuple index out of range"

/-- A single output is returned unwrapped. -/
inductive CallOutput where
  | single (t : Tensor)
  | many (ts : List Tensor)
  deriving DecidableEq, Repr

/-- `output_tensors`, unwrapped when it has one element. -/
def wrapOutputs : List Tensor → CallOutput
  | [t] => .single t
  | ts => .many ts

/-- `for x, y, z in zip(xs, ys, zs)` whose body raises `check x y z` when that is not
`none`: the first error, in order. -/
def zipLoop3 {α β γ ε : Type} (check : α → β → γ → Option ε) :
    List α → List β → List γ → Option ε
  | x :: xs, y :: ys, z :: zs =>
    match check x y z with
    | some err => some err
    | none => zipLoop3 check xs ys zs
  | _, _, _ => none

/-- The loop over `zip(input_tensors, expected_input_dtypes, self._arg_names)`. -/
def dtypeError? : List Tensor → List DataType → List String → Option CallError :=
  zipLoop3 fun t d n => if t.dtype ≠ d then some (.unexpectedDtype n d t.dtype t) else none

/-- `for i in range(len(shape))` from dimension `i` on, for the tensor `t` bound to
`argName` with windows `bounds`. -/
def dimError? (argName : String) (t : Tensor) (bounds : List (Int × Int)) :
    Nat → List Int → Option CallError
  | _, [] => none
  | i, s :: ss =>
    match bounds[i]? with
    | none => some .indexError
    | some (lo, hi) =>
      if s < lo ∨ s > hi then
        some (.unexpectedShape argName (bounds.map Prod.fst) (bounds.map Prod.snd) i (lo, hi) s t)
      else dimError? argName t bounds (i + 1) ss

/-- The loop over `zip(input_tensors, expected_input_shapes, self._arg_names)`. -/
def shapeError? : List Tensor → List (List (Int × Int)) → List String → Option CallError :=
  zipLoop3 fun t b n => dimError? n t b 0 t.shape

/-! ### The raise-loops -/

section ZipLoop
variable {α β γ ε : Type} {check : α → β → γ → Option ε}

theorem zipLoop3_eq_none :
    ∀ {xs : List α} {ys : List β} {zs : List γ},
      (∀ (j : Nat) x y z, xs[j]? = some x → ys[j]? = some y → zs[j]? = some z →
        check x y z = none) →
      zipLoop3 check xs ys zs = none
  | x :: xs, y :: ys, z :: zs, h => by
    rw [zipLoop3, h 0 x y z (by simp) (by simp) (by simp)]
    exact zipLoop3_eq_none fun j x y z hx hy hz =>
      h (j + 1) x y z (by simpa using hx) (by simpa using hy) (by simpa using hz)
  | [], _, _, _ => rfl
  | _ :: _, [], _, _ => rfl
  | _ :: _, _ :: _, [], _ => rfl

/-- The loop raises the error of the first triple whose check fails. -/
theorem zipLoop3_eq_some :
    ∀ {xs : List α} {ys : List β} {zs : List γ} {j : Nat} {x : α} {y : β} {z : γ} {err : ε},
      xs[j]? = some x → ys[j]? = some y → zs[j]? = some z → check x y z = some err →
      (∀ k < j, ∀ x y z, xs[k]? = some x → ys[k]? = some y → zs[k]? = some z →
        check x y z = none) →
      zipLoop3 check xs ys zs = some err
  | x' :: xs, y' :: ys, z' :: zs, j, x, y, z, err, hx, hy, hz, hc, hbefore => by
    cases j with
    | zero =>
      simp only [List.getElem?_cons_zero, Option.some.injEq] at hx hy hz
      subst hx hy hz
      rw [zipLoop3, hc]
    | succ j =>
      rw [zipLoop3, hbefore 0 (Nat.succ_pos j) x' y' z' (by simp) (by simp) (by simp)]
      exact zipLoop3_eq_some (by simpa using hx) (by simpa using hy) (by simpa using hz) hc
        fun k hk x y z hx hy hz => hbefore (k + 1) (by omega) x y z (by simpa using hx)
          (by simpa using hy) (by simpa using hz)
  | [], _, _, _, _, _, _, _, hx, _, _, _, _ => by simp at hx
  | _ :: _, [], _, _, _, _, _, _, _, hy, _, _, _ => by simp at hy
  | _ :: _, _ :: _, [], _, _, _, _, _, _, _, hz, _, _ => by simp at hz

/-- A raised error comes from some triple of the zip. -/
theorem zipLoop3_eq_some_imp :
    ∀ {xs : List α} {ys : List β} {zs : List γ} {err : ε}, zipLoop3 check xs ys zs = some err →
      ∃ j : Nat, ∃ x y z, xs[j]? = some x ∧ ys[j]? = some y ∧ zs[j]? = some z ∧
        check x y z = some err
  | x :: xs, y :: ys, z :: zs, err, h => by
    rw [zipLoop3] at h
    cases hc : check x y z with
    | some err' =>
      simp only [hc, Option.some.injEq] at h
      exact ⟨0, x, y, z, List.getElem?_cons_zero, List.getElem?_cons_zero,
        List.getElem?_cons_zero, h ▸ hc⟩
    | none =>
      simp only [hc] at h
      obtain ⟨j, x', y', z', hx, hy, hz, hc'⟩ := zipLoop3_eq_some_imp h
      exact ⟨j + 1, x', y', z', List.getElem?_cons_succ.trans hx,
        List.getElem?_cons_succ.trans hy, List.getElem?_cons_succ.trans hz, hc'⟩
  | [], _, _, _, h => by simp [zipLoop3] at h
  | _ :: _, [], _, _, h => by simp [zipLoop3] at h
  | _ :: _, _ :: _, [], _, h => by simp [zipLoop3] at h

theorem zipLoop3_eq_none_iff :
    ∀ {xs : List α} {ys : List β} {zs : List γ}, zipLoop3 check xs ys zs = none ↔
      ∀ (j : Nat) x y z, xs[j]? = some x → ys[j]? = some y → zs[j]? = some z →
        check x y z = none
  | x :: xs, y :: ys, z :: zs => by
    refine ⟨fun h j x' y' z' hx hy hz => ?_, zipLoop3_eq_none⟩
    rw [zipLoop3] at h
    cases hc : check x y z with
    | some _ => simp only [hc, reduceCtorEq] at h
    | none =>
      simp only [hc] at h
      cases j with
      | zero => simp_all
      | succ j =>
        exact zipLoop3_eq_none_iff.mp h j x' y' z' (by simpa using hx) (by simpa using hy)
          (by simpa using hz)
  | [], _, _ => by simp [zipLoop3]
  | _ :: _, [], _ => by simp [zipLoop3]
  | _ :: _, _ :: _, [] => by simp [zipLoop3]

end ZipLoop

/-- Dimension `i` has a window in `bounds` and the size `s` lies in it. -/
def InWindow (bounds : List (Int × Int)) (i : Nat) (s : Int) : Prop :=
  ∃ w, bounds[i]? = some w ∧ w.1 ≤ s ∧ s ≤ w.2

section DimLoop
variable {argName : String} {t : Tensor} {bounds : List (Int × Int)}

theorem dimError?_eq_none :
    ∀ {i : Nat} {ss : List Int}, (∀ k s, ss[k]? = some s → InWindow bounds (i + k) s) →
      dimError? argName t bounds i ss = none
  | _, [], _ => rfl
  | i, s :: ss, h => by
    obtain ⟨⟨lo, hi⟩, hw, hlo, hhi⟩ := h 0 s (by simp)
    rw [Nat.add_zero] at hw
    rw [dimError?]
    simp only [hw, show ¬(s < lo ∨ s > hi) by omega, if_false]
    exact dimError?_eq_none fun k s' hs' => by
      simpa [Nat.add_assoc, Nat.add_comm 1 k] using h (k + 1) s' (by simpa using hs')

/-- The loop stops at the first dimension that is not in its window: with the
unexpected-shape error when the window exists, with `IndexError` when it does not. -/
theorem dimError?_eq_first :
    ∀ {i k : Nat} {ss : List Int} {s : Int}, ss[k]? = some s → ¬InWindow bounds (i + k) s →
      (∀ k' < k, ∀ s', ss[k']? = some s' → InWindow bounds (i + k') s') →
      dimError? argName t bounds i ss = some (match bounds[i + k]? with
        | none => .indexError
        | some w => .unexpectedShape argName (bounds.map Prod.fst) (bounds.map Prod.snd) (i + k)
            w s t)
  | _, _, [], _, hs, _, _ => by simp at hs
  | i, 0, s' :: ss, s, hs, hout, _ => by
    simp only [List.getElem?_cons_zero, Option.some.injEq] at hs
    subst hs
    simp only [Nat.add_zero] at hout ⊢
    rw [dimError?]
    rcases hw : bounds[i]? with _ | ⟨lo, hi⟩
    · rfl
    · have : s' < lo ∨ s' > hi := by
        by_contra hin
        exact hout ⟨(lo, hi), by simpa using hw, by simp; omega, by simp; omega⟩
      simp [this]
  | i, k + 1, s' :: ss, s, hs, hout, hbefore => by
    obtain ⟨⟨lo, hi⟩, hw, hlo, hhi⟩ := hbefore 0 (Nat.succ_pos k) s' (by simp)
    rw [dimError?]
    simp only [Nat.add_zero] at hw
    simp only [hw, show ¬(s' < lo ∨ s' > hi) by omega, if_false]
    have := dimError?_eq_first (i := i + 1) (by simpa using hs)
      (by simpa [Nat.add_assoc, Nat.add_comm 1 k] using hout)
      (fun k' hk' s'' hs'' => by
        simpa [Nat.add_assoc, Nat.add_comm 1 k'] using
          hbefore (k' + 1) (by omega) s'' (by simpa using hs''))
    simpa [Nat.add_assoc, Nat.add_comm 1 k] using this

/-- A raised error is for a dimension of the tensor: `IndexError` when the dimension has no
window, else the unexpected-shape error for a size outside its window. -/
theorem dimError?_eq_some_imp :
    ∀ {i : Nat} {ss : List Int} {ce : CallError}, dimError? argName t bounds i ss = some ce →
      ∃ k : Nat, ∃ s, ss[k]? = some s ∧
        ((bounds[i + k]? = none ∧ ce = .indexError) ∨
          ∃ w, bounds[i + k]? = some w ∧ (s < w.1 ∨ w.2 < s) ∧
            ce = .unexpectedShape argName (bounds.map Prod.fst) (bounds.map Prod.snd) (i + k) w s t)
  | _, [], _, h => by simp [dimError?] at h
  | i, s :: ss, ce, h => by
    rw [dimError?] at h
    rcases hw : bounds[i]? with _ | ⟨lo, hi⟩
    · simp only [hw, Option.some.injEq] at h
      exact ⟨0, s, List.getElem?_cons_zero, .inl ⟨hw, h.symm⟩⟩
    · simp only [hw] at h
      by_cases hout : s < lo ∨ s > hi
      · rw [if_pos hout, Option.some.injEq] at h
        exact ⟨0, s, List.getElem?_cons_zero, .inr ⟨(lo, hi), hw, hout, h.symm⟩⟩
      · rw [if_neg hout] at h
        obtain ⟨k, s', hs', hk⟩ := dimError?_eq_some_imp h
        exact ⟨k + 1, s', List.getElem?_cons_succ.trans hs',
          by simpa only [Nat.add_assoc, Nat.add_comm 1 k] using hk⟩

theorem dimError?_eq_none_iff :
    ∀ {i : Nat} {ss : List Int}, dimError? argName t bounds i ss = none ↔
      ∀ k s, ss[k]? = some s → InWindow bounds (i + k) s
  | _, [] => by simp [dimError?]
  | i, s :: ss => by
    refine ⟨fun h k s' hs' => ?_, dimError?_eq_none⟩
    rw [dimError?] at h
    rcases hw : bounds[i]? with _ | ⟨lo, hi⟩
    · simp only [hw, reduceCtorEq] at h
    · simp only [hw] at h
      by_cases hout : s < lo ∨ s > hi
      · rw [if_pos hout] at h
        cases h
      · rw [if_neg hout] at h
        cases k with
        | zero =>
          simp only [List.getElem?_cons_zero, Option.some.injEq] at hs'
          exact ⟨(lo, hi), hw, by omega, by omega⟩
        | succ k =>
          simpa only [Nat.add_assoc, Nat.add_comm 1 k] using
            dimError?_eq_none_iff.mp h k s' (by simpa using hs')

end DimLoop

/-- The shape loop raises nothing exactly when every dimension of every paired input lies
in its window. -/
theorem shapeError?_eq_none_iff {inputs : List Tensor} {shapes : List (List (Int × Int))}
    {names : List String} :
    shapeError? inputs shapes names = none ↔
      ∀ (j : Nat) t b n (i : Nat) s, inputs[j]? = some t → shapes[j]? = some b →
        names[j]? = some n → t.shape[i]? = some s → InWindow b i s := by
  simp only [shapeError?, zipLoop3_eq_none_iff, dimError?_eq_none_iff, Nat.zero_add]
  exact ⟨fun h j t b n i s ht hb hn => h j t b n ht hb hn i s,
    fun h j t b n ht hb hn i s => h j t b n i s ht hb hn⟩

/-- The shape branch re-raises the runtime exception exactly when the shape loop raises
nothing: the loop's own errors are `IndexError` and unexpected shapes. -/
theorem getD_shapeError?_eq_runtime_iff (inputs : List Tensor)
    (shapes : List (List (Int × Int))) (names : List String) (err : MTRTException) :
    (shapeError? inputs shapes names).getD (.runtime err) = .runtime err ↔
      shapeError? inputs shapes names = none := by
  rcases h : shapeError? inputs shapes names with _ | ce
  · exact iff_of_true rfl rfl
  · refine iff_of_false (fun hce => ?_) (Option.some_ne_none ce)
    obtain ⟨j, t, b, n, -, -, -, hc⟩ := zipLoop3_eq_some_imp h
    obtain ⟨k, s, -, ⟨-, rfl⟩ | ⟨w, -, -, rfl⟩⟩ := dimError?_eq_some_imp hc <;> cases hce

/-- The windows `(x, x)` of a static shape `S` hold exactly the sizes of `S`. -/
theorem inWindow_static {S : List Int} {i : Nat} {s : Int} :
    InWindow (S.map fun x => (x, x)) i s ↔ S[i]? = some s := by
  simp only [InWindow, List.getElem?_map]
  constructor
  · rintro ⟨w, hw, hlo, hhi⟩
    obtain ⟨x, hx, rfl⟩ := Option.map_eq_some'.mp hw
    rw [hx, show x = s by dsimp only at hlo hhi; omega]
  · intro h
    exact ⟨(s, s), by rw [h]; rfl, le_refl s, le_refl s⟩

theorem isPrefix_iff_forall_getElem? {α : Type} {l₁ l₂ : List α} :
    l₁ <+: l₂ ↔ ∀ (i : Nat) a, l₁[i]? = some a → l₂[i]? = some a := by
  constructor
  · rintro ⟨r, rfl⟩ i a h
    rw [List.getElem?_append_left (List.getElem?_eq_some_iff.mp h).1, h]
  · intro h
    rw [List.prefix_iff_eq_take]
    refine List.ext_getElem? fun i => ?_
    by_cases hi : i < l₁.length
    · rw [List.getElem?_take_of_lt hi, h i _ (List.getElem?_eq_getElem hi)]
      exact List.getElem?_eq_getElem hi
    · rw [List.getElem?_eq_none (by omega), List.getElem?_take_eq_none (by omega)]

namespace Executable
variable {A σ δ : Type} (rt : Runtime A σ δ) (e : Executable A δ)

/-- `expected_input_dtypes`. -/
def expectedInputDtypes : List DataType := (e.getInputInfo rt).map ArgInfo.dtype

/-- `expected_input_shapes`. -/
def expectedInputShapes : List (List (Int × Int)) := (e.getInputInfo rt).map ArgInfo.shapeBounds

theorem expectedInputDtypes_getElem? (j : Nat) :
    (e.expectedInputDtypes rt)[j]? =
      (e.executableSignature rt).inputs[j]?.map fun arg => rt.convertDtype arg.1.dtype := by
  simp only [expectedInputDtypes, getInputInfo, List.getElem?_map, Option.map_map]
  rfl

theorem expectedInputShapes_getElem? (j : Nat) :
    (e.expectedInputShapes rt)[j]? =
      (e.executableSignature rt).inputs[j]?.map fun arg => (getArgInfo rt arg).shapeBounds := by
  simp only [expectedInputShapes, getInputInfo, List.getElem?_map, Option.map_map]
  rfl

/-- The dtype `__call__` expects of input `j` is the signature's, converted. -/
theorem expectedInputDtypes_getElem?_eq_some {j : Nat} {d : DataType} :
    (e.expectedInputDtypes rt)[j]? = some d ↔
      ∃ arg, (e.executableSignature rt).inputs[j]? = some arg ∧ rt.convertDtype arg.1.dtype = d := by
  rw [expectedInputDtypes_getElem?, Option.map_eq_some']

/-- The windows `__call__` expects of input `j` are `_get_arg_info`'s for the signature's
argument `j`. -/
theorem expectedInputShapes_getElem?_eq_some {j : Nat} {b : List (Int × Int)} :
    (e.expectedInputShapes rt)[j]? = some b ↔
      ∃ arg, (e.executableSignature rt).inputs[j]? = some arg ∧ (getArgInfo rt arg).shapeBounds = b := by
  rw [expectedInputShapes_getElem?, Option.map_eq_some']

/-- The `except runtime.MTRTException as err` block: the error `__call__` raises. -/
def translateError (inputs : List Tensor) (err : MTRTException) : CallError :=
  if containsStr err.message "function expects a memref type with element type" then
    (dtypeError? inputs (e.expectedInputDtypes rt) e.argNames).getD (.runtime err)
  else if containsStr err.message "InternalError: failed to set input shape" ||
      containsStr err.message "Runtime shape mismatch" then
    (shapeError? inputs (e.expectedInputShapes rt) e.argNames).getD (.runtime err)
  else if containsStr err.message "Runtime stride mismatch" then .strideMismatch err.message
  else .runtime err

/-- `Executable.__call__`: the events in the order they happen, and the result. -/
def call (args : List Tensor) (kwargs : KwArgs Tensor) :
    List Event × Except CallError CallOutput :=
  match bindArguments e.argNames args kwargs with
  | .error err => ([], .error (.bind err))
  | .ok inputs =>
    let log := inputs.map Event.eval ++ [.execute inputs]
    match rt.execute e.executable e.outputDevices inputs with
    | .ok outs => (log, .ok (wrapOutputs outs))
    | .error err => (log, .error (e.translateError rt inputs err))

theorem call_of_bind_ok {args inputs : List Tensor} {kwargs : KwArgs Tensor}
    (hb : bindArguments e.argNames args kwargs = .ok inputs) :
    e.call rt args kwargs =
      (inputs.map Event.eval ++ [.execute inputs],
        match rt.execute e.executable e.outputDevices inputs with
        | .ok outs => .ok (wrapOutputs outs)
        | .error err => .error (e.translateError rt inputs err)) := by
  simp only [call, hb]
  split <;> rfl

/-- A one-input runtime whose executor always fails with `message`; the input is declared
`float32` with the window `(1, 4)`. -/
def failingRuntime (message : String) : Runtime Unit DataType Unit where
  load _ := ()
  serialize _ := []
  getSignature _ := ⟨[(⟨[-1], .float32⟩, ⟨[1], [4]⟩)], [(⟨[-1], .float32⟩, ⟨[], []⟩)]⟩
  execute _ _ _ := .error ⟨message⟩
  convertDtype := id

/-- A call whose binding fails raises the binding error and does nothing else: no input
is evaluated and the executor does not run. The error names the first missing parameter,
else the keywords that name no parameter after the positional ones, else the count,
which happens only with too many positional arguments and no keywords. -/
theorem call_binding_failure (hn : e.argNames.Nodup) {args : List Tensor}
    {kwargs : KwArgs Tensor} {err : BindError}
    (h : bindArguments e.argNames args kwargs = .error err) :
    e.call rt args kwargs = ([], .error (.bind err)) ∧
    (∀ name, (e.argNames.drop args.length).find? (· ∉ kwargs.keys) = some name →
      err = .missingArgument name e.argNames) ∧
    ((e.argNames.drop args.length).find? (· ∉ kwargs.keys) = none →
      kwargs.keys.filter (· ∉ e.argNames.drop args.length) ≠ [] →
      err = .extraKeywordArguments (kwargs.keys.filter (· ∉ e.argNames.drop args.length))
        e.argNames (e.argNames.take args.length)) ∧
    ((e.argNames.drop args.length).find? (· ∉ kwargs.keys) = none →
      kwargs.keys.filter (· ∉ e.argNames.drop args.length) = [] →
      err = .incorrectNumberOfArguments e.argNames.length (args.length + kwargs.length)
        e.argNames ∧ e.argNames.length < args.length ∧ kwargs.entries = []) :=
  ⟨by simp [call, h], bindArguments_error_cases hn h⟩

/-- An executable declaring `(a, b)`, and the keywords `a=...` alone. -/
def twoArgs : Executable Unit Unit := ⟨(), ["a", "b"], []⟩

def onlyA : KwArgs Tensor := ⟨[("a", ⟨.float32, [1]⟩)], by decide⟩

theorem call_binding_failure_only_a :
    twoArgs.argNames.Nodup ∧
    bindArguments twoArgs.argNames [] onlyA = .error (.missingArgument "b" ["a", "b"]) ∧
    (twoArgs.call (failingRuntime "") [] onlyA =
        ([], .error (.bind (.missingArgument "b" ["a", "b"]))) ∧
    (∀ name, (twoArgs.argNames.drop ([] : List Tensor).length).find? (· ∉ onlyA.keys) =
        some name → BindError.missingArgument "b" ["a", "b"] = .missingArgument name twoArgs.argNames) ∧
    ((twoArgs.argNames.drop ([] : List Tensor).length).find? (· ∉ onlyA.keys) = none →
      onlyA.keys.filter (· ∉ twoArgs.argNames.drop ([] : List Tensor).length) ≠ [] →
      BindError.missingArgument "b" ["a", "b"] =
        .extraKeywordArguments (onlyA.keys.filter (· ∉ twoArgs.argNames.drop ([] : List Tensor).length))
        twoArgs.argNames (twoArgs.argNames.take ([] : List Tensor).length)) ∧
    ((twoArgs.argNames.drop ([] : List Tensor).length).find? (· ∉ onlyA.keys) = none →
      onlyA.keys.filter (· ∉ twoArgs.argNames.drop ([] : List Tensor).length) = [] →
      BindError.missingArgument "b" ["a", "b"] =
        .incorrectNumberOfArguments twoArgs.argNames.length (([] : List Tensor).length + onlyA.length)
        twoArgs.argNames ∧ twoArgs.argNames.length < ([] : List Tensor).length ∧
        onlyA.entries = [])) :=
  ⟨by decide, rfl, call_binding_failure (failingRuntime "") twoArgs (by decide) rfl⟩

/-- On an element-type failure the call names the first input, among those paired with a
signature argument, whose dtype differs from the signature's (converted by the runtime), or
re-raises the runtime exception when there is none. -/
theorem call_dtype_translation {args inputs : List Tensor} {kwargs : KwArgs Tensor}
    {err : MTRTException} (hb : bindArguments e.argNames args kwargs = .ok inputs)
    (hx : rt.execute e.executable e.outputDevices inputs = .error err)
    (hm : containsStr err.message "function expects a memref type with element type") :
    ((∀ (j : Nat) t arg n, inputs[j]? = some t → (e.executableSignature rt).inputs[j]? = some arg →
        e.argNames[j]? = some n → t.dtype = rt.convertDtype arg.1.dtype) →
      (e.call rt args kwargs).2 = .error (.runtime err)) ∧
    (∀ (j : Nat) t arg n, inputs[j]? = some t → (e.executableSignature rt).inputs[j]? = some arg →
        e.argNames[j]? = some n → t.dtype ≠ rt.convertDtype arg.1.dtype →
        (∀ k < j, ∀ t' arg', inputs[k]? = some t' →
          (e.executableSignature rt).inputs[k]? = some arg' → t'.dtype = rt.convertDtype arg'.1.dtype) →
      (e.call rt args kwargs).2 =
        .error (.unexpectedDtype n (rt.convertDtype arg.1.dtype) t.dtype t)) := by
  rw [call_of_bind_ok rt e hb, hx]
  simp only [translateError, hm, if_true, dtypeError?]
  refine ⟨fun hall => ?_, fun j t arg n ht ha hn hne hbefore => ?_⟩
  · rw [zipLoop3_eq_none fun j t d n ht hd hn => by
      obtain ⟨arg, ha, rfl⟩ := (expectedInputDtypes_getElem?_eq_some rt e).mp hd
      simp [hall j t arg n ht ha hn]]
    rfl
  · have hc : (if t.dtype ≠ rt.convertDtype arg.1.dtype then
        some (CallError.unexpectedDtype n (rt.convertDtype arg.1.dtype) t.dtype t) else none) =
        some (.unexpectedDtype n (rt.convertDtype arg.1.dtype) t.dtype t) := if_pos hne
    rw [zipLoop3_eq_some ht ((expectedInputDtypes_getElem?_eq_some rt e).mpr ⟨arg, ha, rfl⟩) hn hc
      fun k hk t' d' n' ht' hd' _ => by
        obtain ⟨arg', ha', rfl⟩ := (expectedInputDtypes_getElem?_eq_some rt e).mp hd'
        simp [hbefore k hk t' arg' ht' ha']]
    rfl

/-- An executable with the one argument `a`, called with no keywords. -/
def oneArg : Executable Unit Unit := ⟨(), ["a"], [()]⟩

def noKwargs : KwArgs Tensor := ⟨[], by decide⟩

theorem call_dtype_translation_int32 :
    bindArguments oneArg.argNames [(⟨.int32, [1]⟩ : Tensor)] noKwargs = .ok [⟨.int32, [1]⟩] ∧
    (failingRuntime "function expects a memref type with element type").execute
      oneArg.executable oneArg.outputDevices [⟨.int32, [1]⟩] =
      .error ⟨"function expects a memref type with element type"⟩ ∧
    containsStr "function expects a memref type with element type"
      "function expects a memref type with element type" ∧
    ((∀ (j : Nat) t arg n, [(⟨.int32, [1]⟩ : Tensor)][j]? = some t →
        (oneArg.executableSignature (failingRuntime "function expects a memref type with element type")).inputs[j]? = some arg →
        oneArg.argNames[j]? = some n → t.dtype = (failingRuntime "function expects a memref type with element type").convertDtype arg.1.dtype) →
      (oneArg.call (failingRuntime "function expects a memref type with element type") [⟨.int32, [1]⟩] noKwargs).2 = .error (.runtime ⟨"function expects a memref type with element type"⟩)) ∧
    (∀ (j : Nat) t arg n, [(⟨.int32, [1]⟩ : Tensor)][j]? = some t →
        (oneArg.executableSignature (failingRuntime "function expects a memref type with element type")).inputs[j]? = some arg →
        oneArg.argNames[j]? = some n → t.dtype ≠ (failingRuntime "function expects a memref type with element type").convertDtype arg.1.dtype →
        (∀ k < j, ∀ t' arg', [(⟨.int32, [1]⟩ : Tensor)][k]? = some t' →
          (oneArg.executableSignature (failingRuntime "function expects a memref type with element type")).inputs[k]? = some arg' →
          t'.dtype = (failingRuntime "function expects a memref type with element type").convertDtype arg'.1.dtype) →
      (oneArg.call (failingRuntime "function expects a memref type with element type") [⟨.int32, [1]⟩] noKwargs).2 =
        .error (.unexpectedDtype n ((failingRuntime "function expects a memref type with element type").convertDtype arg.1.dtype) t.dtype t)) :=
  ⟨rfl, rfl, rfl, call_dtype_translation _ oneArg rfl rfl rfl⟩

/-- On a shape failure (and no element-type phrase) the call re-raises the runtime
exception when every dimension of every paired input has a window in `_get_arg_info` of its
signature argument and lies in it; otherwise it stops at the first dimension, in (input,
dimension) order, that does not: the unexpected-shape error when the dimension has a window,
`IndexError` when the input has more dimensions than its signature argument has windows. -/
theorem call_shape_translation {args inputs : List Tensor} {kwargs : KwArgs Tensor}
    {err : MTRTException} (hb : bindArguments e.argNames args kwargs = .ok inputs)
    (hx : rt.execute e.executable e.outputDevices inputs = .error err)
    (hd : containsStr err.message "function expects a memref type with element type" = false)
    (hs : containsStr err.message "InternalError: failed to set input shape" ∨
      containsStr err.message "Runtime shape mismatch") :
    ((∀ (j : Nat) t arg n (i : Nat) s, inputs[j]? = some t →
        (e.executableSignature rt).inputs[j]? = some arg → e.argNames[j]? = some n →
        t.shape[i]? = some s → InWindow (getArgInfo rt arg).shapeBounds i s) →
      (e.call rt args kwargs).2 = .error (.runtime err)) ∧
    (∀ (j : Nat) t arg n (i : Nat) s, inputs[j]? = some t →
        (e.executableSignature rt).inputs[j]? = some arg → e.argNames[j]? = some n →
        t.shape[i]? = some s → ¬InWindow (getArgInfo rt arg).shapeBounds i s →
        (∀ j' < j, ∀ t' arg' n' (i' : Nat) s', inputs[j']? = some t' →
          (e.executableSignature rt).inputs[j']? = some arg' → e.argNames[j']? = some n' →
          t'.shape[i']? = some s' → InWindow (getArgInfo rt arg').shapeBounds i' s') →
        (∀ i' < i, ∀ s', t.shape[i']? = some s' → InWindow (getArgInfo rt arg).shapeBounds i' s') →
      (e.call rt args kwargs).2 = .error (match (getArgInfo rt arg).shapeBounds[i]? with
        | none => .indexError
        | some w => .unexpectedShape n ((getArgInfo rt arg).shapeBounds.map Prod.fst)
            ((getArgInfo rt arg).shapeBounds.map Prod.snd) i w s t)) := by
  rw [call_of_bind_ok rt e hb, hx]
  have hs' : (containsStr err.message "InternalError: failed to set input shape" ||
      containsStr err.message "Runtime shape mismatch") = true := by simpa using hs
  simp only [translateError, hd, hs', if_true, shapeError?, Bool.false_eq_true, if_false]
  refine ⟨fun hall => ?_, fun j t arg n i s ht ha hn hsi hout hbefore hdims => ?_⟩
  · rw [zipLoop3_eq_none fun j t b n ht hbj hn => dimError?_eq_none fun k s hs => by
      obtain ⟨arg, ha, rfl⟩ := (expectedInputShapes_getElem?_eq_some rt e).mp hbj
      simpa using hall j t arg n k s ht ha hn hs]
    rfl
  · have hfirst := @dimError?_eq_first n t (getArgInfo rt arg).shapeBounds 0 i _ _ hsi
      (by simpa using hout) (fun k hk s' hs' => by simpa using hdims k hk s' hs')
    rw [@zipLoop3_eq_some _ _ _ _ (fun t b n => dimError? n t b 0 t.shape) _ _ _ _ _ _ _ _ ht
      ((expectedInputShapes_getElem?_eq_some rt e).mpr ⟨arg, ha, rfl⟩) hn hfirst
      fun k hk t' b' n' ht' hb' hn' => by
        obtain ⟨arg', ha', rfl⟩ := (expectedInputShapes_getElem?_eq_some rt e).mp hb'
        exact dimError?_eq_none fun i' s' hs' => by
          simpa using hbefore k hk t' arg' n' i' s' ht' ha' hn' hs']
    simp only [Nat.zero_add, Option.getD_some]

theorem call_shape_translation_of_mismatch :
    bindArguments oneArg.argNames [(⟨.float32, [5]⟩ : Tensor)] noKwargs = .ok [⟨.float32, [5]⟩] ∧
    (failingRuntime "Runtime shape mismatch").execute oneArg.executable oneArg.outputDevices
      [⟨.float32, [5]⟩] = .error ⟨"Runtime shape mismatch"⟩ ∧
    containsStr "Runtime shape mismatch" "function expects a memref type with element type" =
      false ∧
    (containsStr "Runtime shape mismatch" "InternalError: failed to set input shape" ∨
      containsStr "Runtime shape mismatch" "Runtime shape mismatch") ∧
    ((∀ (j : Nat) t arg n (i : Nat) s, [(⟨.float32, [5]⟩ : Tensor)][j]? = some t →
        (oneArg.executableSignature (failingRuntime "Runtime shape mismatch")).inputs[j]? = some arg →
        oneArg.argNames[j]? = some n → t.shape[i]? = some s →
        InWindow (getArgInfo (failingRuntime "Runtime shape mismatch") arg).shapeBounds i s) →
      (oneArg.call (failingRuntime "Runtime shape mismatch") [⟨.float32, [5]⟩]
        noKwargs).2 = .error (.runtime ⟨"Runtime shape mismatch"⟩)) ∧
    (∀ (j : Nat) t arg n (i : Nat) s, [(⟨.float32, [5]⟩ : Tensor)][j]? = some t →
        (oneArg.executableSignature (failingRuntime "Runtime shape mismatch")).inputs[j]? = some arg →
        oneArg.argNames[j]? = some n → t.shape[i]? = some s →
        ¬InWindow (getArgInfo (failingRuntime "Runtime shape mismatch") arg).shapeBounds i s →
        (∀ j' < j, ∀ t' arg' n' (i' : Nat) s', [(⟨.float32, [5]⟩ : Tensor)][j']? = some t' →
          (oneArg.executableSignature (failingRuntime "Runtime shape mismatch")).inputs[j']? = some arg' →
          oneArg.argNames[j']? = some n' → t'.shape[i']? = some s' →
          InWindow (getArgInfo (failingRuntime "Runtime shape mismatch") arg').shapeBounds i' s') →
        (∀ i' < i, ∀ s', t.shape[i']? = some s' →
          InWindow (getArgInfo (failingRuntime "Runtime shape mismatch") arg).shapeBounds i' s') →
      (oneArg.call (failingRuntime "Runtime shape mismatch") [⟨.float32, [5]⟩]
        noKwargs).2 = .error (match (getArgInfo (failingRuntime "Runtime shape mismatch") arg).shapeBounds[i]? with
          | none => .indexError
          | some w => .unexpectedShape n ((getArgInfo (failingRuntime "Runtime shape mismatch") arg).shapeBounds.map Prod.fst)
              ((getArgInfo (failingRuntime "Runtime shape mismatch") arg).shapeBounds.map Prod.snd) i w s t)) :=
  ⟨rfl, rfl, rfl, Or.inr rfl, call_shape_translation _ oneArg rfl rfl rfl (Or.inr rfl)⟩

/-- A rank-2 tensor for the rank-1 argument of `failingRuntime`: dimension 0 is in its
window, dimension 1 has none, and the translation fails with `IndexError` instead of
re-raising the runtime exception. -/
theorem call_rank_mismatch_index_error :
    ((⟨(), ["a"], [()]⟩ : Executable Unit Unit).call (failingRuntime "Runtime shape mismatch")
      [⟨.float32, [2, 3]⟩] noKwargs).2 = .error .indexError := rfl

/-- When the executor returns as many tensors as the signature declares outputs,
`__call__` returns a single `Tensor` exactly when `__signature__` announces one. -/
theorem call_output_matches_signature {args inputs outs : List Tensor} {kwargs : KwArgs Tensor}
    (hb : bindArguments e.argNames args kwargs = .ok inputs)
    (hx : rt.execute e.executable e.outputDevices inputs = .ok outs)
    (hn : outs.length = (e.executableSignature rt).outputs.length) :
    ∃ r, (e.call rt args kwargs).2 = .ok r ∧
      ((∃ t, r = .single t) ↔ PySignature.returnAnnotation (e.signature rt) = .tensor) := by
  refine ⟨wrapOutputs outs, by rw [call_of_bind_ok rt e hb, hx], ?_⟩
  rw [signature, ← hn]
  rcases outs with _ | ⟨t, _ | ⟨t', ts⟩⟩ <;> simp [wrapOutputs]

/-- A one-input, one-output runtime whose executor returns its inputs. -/
def echoRuntime : Runtime Unit DataType Unit where
  load _ := ()
  serialize _ := []
  getSignature _ := ⟨[(⟨[-1], .float32⟩, ⟨[1], [4]⟩)], [(⟨[-1], .float32⟩, ⟨[1], [4]⟩)]⟩
  execute _ _ inputs := .ok inputs
  convertDtype := id

theorem call_output_matches_signature_echo :
    bindArguments oneArg.argNames [(⟨.float32, [2]⟩ : Tensor)] noKwargs = .ok [⟨.float32, [2]⟩] ∧
    echoRuntime.execute oneArg.executable oneArg.outputDevices [⟨.float32, [2]⟩] =
      .ok [⟨.float32, [2]⟩] ∧
    [(⟨.float32, [2]⟩ : Tensor)].length = (oneArg.executableSignature echoRuntime).outputs.length ∧
    ∃ r, (oneArg.call echoRuntime [⟨.float32, [2]⟩] noKwargs).2 = .ok r ∧
      ((∃ t, r = .single t) ↔
        PySignature.returnAnnotation (oneArg.signature echoRuntime) = .tensor) :=
  ⟨rfl, rfl, rfl, call_output_matches_signature echoRuntime oneArg rfl rfl rfl⟩

/-! ### Every call -/

/-- What `__call__` may raise once the executor has failed with `err` on `inputs`: the
exception itself; its message, for a stride mismatch; and, when the message names the
failure, an unexpected data type for an input whose type differs from its signature
argument's (converted by the runtime), or, for a dimension of an input, an unexpected shape
(its size outside the window `_get_arg_info` gives that argument, both reported) or
`IndexError` (no window for it). -/
def AccurateError (inputs : List Tensor) (err : MTRTException) (ce : CallError) : Prop :=
  ce = .runtime err ∨
  (containsStr err.message "Runtime stride mismatch" ∧ ce = .strideMismatch err.message) ∨
  (containsStr err.message "function expects a memref type with element type" ∧
    ∃ j : Nat, ∃ t arg n, inputs[j]? = some t ∧ (e.executableSignature rt).inputs[j]? = some arg ∧
      e.argNames[j]? = some n ∧ t.dtype ≠ rt.convertDtype arg.1.dtype ∧
      ce = .unexpectedDtype n (rt.convertDtype arg.1.dtype) t.dtype t) ∨
  ((containsStr err.message "InternalError: failed to set input shape" ∨
      containsStr err.message "Runtime shape mismatch") ∧
    ∃ j : Nat, ∃ t arg n, inputs[j]? = some t ∧ (e.executableSignature rt).inputs[j]? = some arg ∧
      e.argNames[j]? = some n ∧ ∃ i : Nat, ∃ s, t.shape[i]? = some s ∧
        (((getArgInfo rt arg).shapeBounds[i]? = none ∧ ce = .indexError) ∨
          ∃ w, (getArgInfo rt arg).shapeBounds[i]? = some w ∧ (s < w.1 ∨ w.2 < s) ∧
            ce = .unexpectedShape n ((getArgInfo rt arg).shapeBounds.map Prod.fst)
              ((getArgInfo rt arg).shapeBounds.map Prod.snd) i w s t))

theorem accurateError_translateError (inputs : List Tensor) (err : MTRTException) :
    e.AccurateError rt inputs err (e.translateError rt inputs err) := by
  unfold translateError
  split_ifs with hd hs hst
  · rcases hde : dtypeError? inputs (e.expectedInputDtypes rt) e.argNames with _ | ce
    · exact .inl rfl
    · obtain ⟨j, t, d, n, ht, hdj, hn, hc⟩ := zipLoop3_eq_some_imp hde
      obtain ⟨arg, ha, rfl⟩ := (expectedInputDtypes_getElem?_eq_some rt e).mp hdj
      by_cases hne : t.dtype ≠ rt.convertDtype arg.1.dtype
      · rw [if_pos hne, Option.some.injEq] at hc
        exact .inr (.inr (.inl ⟨hd, j, t, arg, n, ht, ha, hn, hne, hc.symm⟩))
      · rw [if_neg hne] at hc
        cases hc
  · rcases hse : shapeError? inputs (e.expectedInputShapes rt) e.argNames with _ | ce
    · exact .inl rfl
    · obtain ⟨j, t, b, n, ht, hb, hn, hc⟩ := zipLoop3_eq_some_imp hse
      obtain ⟨arg, ha, rfl⟩ := (expectedInputShapes_getElem?_eq_some rt e).mp hb
      obtain ⟨i, s, hsi, hcase⟩ := dimError?_eq_some_imp hc
      rw [Nat.zero_add] at hcase
      exact .inr (.inr (.inr ⟨by simpa using hs, j, t, arg, n, ht, ha, hn, i, s, hsi, hcase⟩))
  · exact .inr (.inl ⟨hst, rfl⟩)
  · exact .inl rfl

/-- Whatever `__call__` raises is accurate: a binding error is the binding's, and any other
error follows a failure of the executor on the bound inputs and is one `AccurateError`
allows. In particular an unexpected data type is reported only for an input whose type
differs from the signature's, an unexpected shape only with a size outside its window, and
`IndexError` only for an input with more dimensions than its argument has windows. -/
theorem call_error_sound {args : List Tensor} {kwargs : KwArgs Tensor} {ce : CallError}
    (h : (e.call rt args kwargs).2 = .error ce) :
    (∃ be, bindArguments e.argNames args kwargs = .error be ∧ ce = .bind be) ∨
    ∃ inputs err, bindArguments e.argNames args kwargs = .ok inputs ∧
      rt.execute e.executable e.outputDevices inputs = .error err ∧
      e.AccurateError rt inputs err ce := by
  rcases hb : bindArguments e.argNames args kwargs with be | inputs
  · simp only [call, hb, Except.error.injEq] at h
    exact .inl ⟨be, rfl, h.symm⟩
  · rw [call_of_bind_ok rt e hb] at h
    rcases hx : rt.execute e.executable e.outputDevices inputs with err | outs
    · simp only [hx, Except.error.injEq] at h
      exact .inr ⟨inputs, err, rfl, hx, h ▸ accurateError_translateError rt e inputs err⟩
    · simp only [hx, reduceCtorEq] at h

theorem call_error_sound_int32 :
    (oneArg.call (failingRuntime "function expects a memref type with element type")
      [⟨.int32, [1]⟩] noKwargs).2 = .error (.unexpectedDtype "a" .float32 .int32 ⟨.int32, [1]⟩) ∧
    ((∃ be, bindArguments oneArg.argNames [(⟨.int32, [1]⟩ : Tensor)] noKwargs = .error be ∧
        CallError.unexpectedDtype "a" .float32 .int32 ⟨.int32, [1]⟩ = .bind be) ∨
      ∃ inputs err, bindArguments oneArg.argNames [(⟨.int32, [1]⟩ : Tensor)] noKwargs = .ok inputs ∧
        (failingRuntime "function expects a memref type with element type").execute
          oneArg.executable oneArg.outputDevices inputs = .error err ∧
        oneArg.AccurateError (failingRuntime "function expects a memref type with element type")
          inputs err (.unexpectedDtype "a" .float32 .int32 ⟨.int32, [1]⟩)) :=
  ⟨rfl, call_error_sound _ oneArg rfl⟩

/-- The order of the keyword arguments never matters to `__call__`: calls whose keywords
differ only in order evaluate the same inputs, run the executor on the same inputs and
end the same way, except that an extra-keyword error, raised before anything is
evaluated, lists the unexpected names in each caller's order. -/
theorem call_kwargs_perm (hn : e.argNames.Nodup) (args : List Tensor) {kw₁ kw₂ : KwArgs Tensor}
    (hp : kw₁.entries.Perm kw₂.entries) :
    e.call rt args kw₁ = e.call rt args kw₂ ∨
    ∃ ns₁ ns₂ : List String, ns₁.Perm ns₂ ∧
      e.call rt args kw₁ = ([], .error (.bind (.extraKeywordArguments ns₁ e.argNames
        (e.argNames.take args.length)))) ∧
      e.call rt args kw₂ = ([], .error (.bind (.extraKeywordArguments ns₂ e.argNames
        (e.argNames.take args.length)))) := by
  rcases bindArguments_perm hn args hp with h | ⟨ns₁, ns₂, hns, h₁, h₂⟩
  · exact .inl (by simp only [call, h])
  · exact .inr ⟨ns₁, ns₂, hns, by simp only [call, h₁], by simp only [call, h₂]⟩

/-- The keywords `a`, `b` given in the two orders. -/
def abKwargs : KwArgs Tensor := ⟨[("a", ⟨.float32, [1]⟩), ("b", ⟨.float32, [2]⟩)], by decide⟩
def baKwargs : KwArgs Tensor := ⟨[("b", ⟨.float32, [2]⟩), ("a", ⟨.float32, [1]⟩)], by decide⟩

theorem call_kwargs_perm_ab :
    twoArgs.argNames.Nodup ∧ abKwargs.entries.Perm baKwargs.entries ∧
    (twoArgs.call echoRuntime [] abKwargs = twoArgs.call echoRuntime [] baKwargs ∨
      ∃ ns₁ ns₂ : List String, ns₁.Perm ns₂ ∧
        twoArgs.call echoRuntime [] abKwargs = ([], .error (.bind (.extraKeywordArguments ns₁
          twoArgs.argNames (twoArgs.argNames.take ([] : List Tensor).length)))) ∧
        twoArgs.call echoRuntime [] baKwargs = ([], .error (.bind (.extraKeywordArguments ns₂
          twoArgs.argNames (twoArgs.argNames.take ([] : List Tensor).length))))) :=
  ⟨by decide, List.Perm.swap _ _ _,
    call_kwargs_perm echoRuntime twoArgs (by decide) [] (List.Perm.swap _ _ _)⟩

/-- For an executable whose inputs all have static shapes (no bounds), a shape failure is
re-raised as it is exactly when every input's shape is a prefix of its argument's static
shape: an input of the declared shape, but also one of lower rank that agrees on its
dimensions, passes the check and gets the runtime's own message. -/
theorem call_static_shape_reraise_iff_prefix {args inputs : List Tensor}
    {kwargs : KwArgs Tensor} {err : MTRTException}
    (hb : bindArguments e.argNames args kwargs = .ok inputs)
    (hx : rt.execute e.executable e.outputDevices inputs = .error err)
    (hd : containsStr err.message "function expects a memref type with element type" = false)
    (hs : containsStr err.message "InternalError: failed to set input shape" ∨
      containsStr err.message "Runtime shape mismatch")
    (hstatic : ∀ arg ∈ (e.executableSignature rt).inputs, (arg.2.min.zip arg.2.max).length = 0) :
    (e.call rt args kwargs).2 = .error (.runtime err) ↔
      ∀ (j : Nat) t arg n, inputs[j]? = some t → (e.executableSignature rt).inputs[j]? = some arg →
        e.argNames[j]? = some n → t.shape <+: arg.1.shape := by
  have hs' : (containsStr err.message "InternalError: failed to set input shape" ||
      containsStr err.message "Runtime shape mismatch") = true := by simpa using hs
  have hbounds : ∀ (j : Nat) arg, (e.executableSignature rt).inputs[j]? = some arg →
      (e.expectedInputShapes rt)[j]? = some (arg.1.shape.map fun x => (x, x)) := fun j arg ha => by
    rw [expectedInputShapes_getElem?, ha, Option.map_some',
      getArgInfo_shapeBounds_of_unbounded rt (hstatic arg (List.getElem?_mem ha))]
  rw [call_of_bind_ok rt e hb, hx]
  simp only [translateError, hd, hs', if_true, Bool.false_eq_true, if_false, Except.error.injEq]
  rw [getD_shapeError?_eq_runtime_iff, shapeError?_eq_none_iff]
  constructor
  · intro h j t arg n ht ha hn
    exact isPrefix_iff_forall_getElem?.mpr fun i s hsi =>
      inWindow_static.mp (h j t _ n i s ht (hbounds j arg ha) hn hsi)
  · intro h j t b n i s ht hbj hn hsi
    obtain ⟨arg, ha, -⟩ :=
      Option.map_eq_some'.mp ((expectedInputShapes_getElem? rt e j).symm.trans hbj)
    rw [Option.some.inj ((hbounds j arg ha).symm.trans hbj).symm, inWindow_static]
    exact isPrefix_iff_forall_getElem?.mp (h j t arg n ht ha hn) i s hsi

/-- A one-input runtime whose input is declared `float32` of the static shape `[2, 3]`,
without bounds, and whose executor always fails with `message`. -/
def staticRuntime (message : String) : Runtime Unit DataType Unit where
  load _ := ()
  serialize _ := []
  getSignature _ := ⟨[(⟨[2, 3], .float32⟩, ⟨[], []⟩)], [(⟨[2, 3], .float32⟩, ⟨[], []⟩)]⟩
  execute _ _ _ := .error ⟨message⟩
  convertDtype := id

theorem call_static_shape_reraise_rank_one :
    bindArguments oneArg.argNames [(⟨.float32, [2]⟩ : Tensor)] noKwargs = .ok [⟨.float32, [2]⟩] ∧
    (staticRuntime "Runtime shape mismatch").execute oneArg.executable oneArg.outputDevices
      [⟨.float32, [2]⟩] = .error ⟨"Runtime shape mismatch"⟩ ∧
    containsStr "Runtime shape mismatch" "function expects a memref type with element type" =
      false ∧
    (containsStr "Runtime shape mismatch" "InternalError: failed to set input shape" ∨
      containsStr "Runtime shape mismatch" "Runtime shape mismatch") ∧
    (∀ arg ∈ (oneArg.executableSignature (staticRuntime "Runtime shape mismatch")).inputs,
      (arg.2.min.zip arg.2.max).length = 0) ∧
    ((oneArg.call (staticRuntime "Runtime shape mismatch") [⟨.float32, [2]⟩] noKwargs).2 =
        .error (.runtime ⟨"Runtime shape mismatch"⟩) ↔
      ∀ (j : Nat) t arg n, [(⟨.float32, [2]⟩ : Tensor)][j]? = some t →
        (oneArg.executableSignature (staticRuntime "Runtime shape mismatch")).inputs[j]? =
          some arg → oneArg.argNames[j]? = some n → t.shape <+: arg.1.shape) :=
  ⟨rfl, rfl, rfl, Or.inr rfl, by decide,
    call_static_shape_reraise_iff_prefix _ oneArg rfl rfl rfl (Or.inr rfl) (by decide)⟩

end Executable

end Tripy
