import Mathlib.Data.List.Nodup
import Mathlib.Data.List.Perm.Basic

/-! Argument binding of `Executable.__call__` (nvtripy/backend/api/executable.py).
`__call__` is on the hot path and bypasses the standard dispatch, so it binds
positional and keyword arguments by hand. Only the binding is modelled here; what
`__call__` does with the bound inputs is in `Tripy.Backend.Call`. -/
namespace Tripy.Binding
variable {α : Type}

/-- A `**kwargs` dict: entries in insertion order, keys pairwise distinct. -/
@[ext] structure KwArgs (α : Type) where
  entries : List (String × α)
  nodup : (entries.map Prod.fst).Nodup

namespace KwArgs

def keys (kw : KwArgs α) : List String := kw.entries.map Prod.fst

def length (kw : KwArgs α) : Nat := kw.entries.length

/-- `kwargs[name]`, `none` where Python raises `KeyError`. -/
def get? (kw : KwArgs α) (name : String) : Option α :=
  (kw.entries.find? (·.1 == name)).map Prod.snd

/-- Every key of `ns` deleted; `del kwargs[name]` is the case of one name. -/
def eraseAll (kw : KwArgs α) (ns : List String) : KwArgs α :=
  ⟨kw.entries.filter (·.1 ∉ ns), kw.nodup.sublist ((List.filter_sublist _).map _)⟩

/-- `del kwargs[name]`. -/
def erase (kw : KwArgs α) (name : String) : KwArgs α := kw.eraseAll [name]

variable (kw : KwArgs α)

theorem get?_eq_some_iff {name : String} {v : α} :
    kw.get? name = some v ↔ (name, v) ∈ kw.entries := by
  constructor
  · intro h
    obtain ⟨e, he, rfl⟩ := Option.map_eq_some'.mp h
    have hk : e.1 = name := by simpa using List.find?_some he
    exact hk ▸ List.mem_of_find?_eq_some he
  · intro h
    cases he : kw.entries.find? (·.1 == name) with
    | none => simpa using List.find?_eq_none.mp he _ h
    | some e =>
      have hk : e.1 = name := by simpa using List.find?_some he
      have := List.inj_on_of_nodup_map kw.nodup (List.mem_of_find?_eq_some he) h hk
      simp [get?, he, this]

theorem get?_eq_none_iff {name : String} : kw.get? name = none ↔ name ∉ kw.keys := by
  simp only [get?, keys, Option.map_eq_none', List.find?_eq_none, beq_iff_eq, List.mem_map]
  exact ⟨fun h ⟨e, he, hk⟩ => h e he hk, fun h e he hk => h ⟨e, he, hk⟩⟩

theorem isSome_get?_iff {name : String} : (kw.get? name).isSome ↔ name ∈ kw.keys := by
  rw [← not_iff_not, Option.not_isSome_iff_eq_none, get?_eq_none_iff]

@[simp] theorem keys_eraseAll (ns : List String) :
    (kw.eraseAll ns).keys = kw.keys.filter (· ∉ ns) := by
  simp [keys, eraseAll, List.filter_map, Function.comp_def]

theorem get?_eraseAll {ns : List String} {name : String} (h : name ∉ ns) :
    (kw.eraseAll ns).get? name = kw.get? name := by
  refine Option.ext fun v => ?_
  simp [get?_eq_some_iff, eraseAll, List.mem_filter, h]

@[simp] theorem eraseAll_nil : kw.eraseAll [] = kw := by
  ext1; simp [eraseAll]

theorem eraseAll_eraseAll (ns ms : List String) :
    (kw.eraseAll ns).eraseAll ms = kw.eraseAll (ns ++ ms) := by
  ext1; simp [eraseAll, List.filter_filter, Bool.and_comm]

theorem get?_eq_of_perm {kw' : KwArgs α} (h : kw.entries.Perm kw'.entries) (name : String) :
    kw.get? name = kw'.get? name :=
  Option.ext fun _ => by rw [Option.mem_def, Option.mem_def, get?_eq_some_iff, get?_eq_some_iff,
    h.mem_iff]

theorem length_eq_keys_length : kw.length = kw.keys.length := by
  simp [length, keys]

@[simp] theorem isEmpty_entries : kw.entries.isEmpty = kw.keys.isEmpty := by
  cases h : kw.entries <;> simp [keys, h]

end KwArgs

/-- The three errors of the binding phase, with the data their messages print. -/
inductive BindError where
  | missingArgument (name : String) (argNames : List String)
  | extraKeywordArguments (names argNames positional : List String)
  | incorrectNumberOfArguments (expected got : Nat) (argNames : List String)
  deriving DecidableEq, Repr

/-- Python's `repr` of a list of identifiers, as the messages print `self._arg_names`. -/
def reprNames (ns : List String) : String :=
  let q := String.singleton (Char.ofNat 39)
  "[" ++ ", ".intercalate (ns.map fun n => q ++ n ++ q) ++ "]"

/-- First line of the `TripyException` each error raises. -/
def BindError.summary : BindError → String
  | .missingArgument name _ => "Missing argument: " ++ name
  | .extraKeywordArguments names _ _ => "Extra keyword arguments: " ++ reprNames names
  | .incorrectNumberOfArguments _ _ _ => "Incorrect number of arguments."

/-- The `for name in expected_kwargs` loop: `inputs` is `input_tensors` and `kw` what
the `del`s have left of `kwargs`. -/
def bindKeywords (argNames : List String) :
    List String → KwArgs α → List α → Except BindError (List α × KwArgs α)
  | [], kw, inputs => .ok (inputs, kw)
  | name :: rest, kw, inputs =>
    match kw.get? name with
    | none => .error (.missingArgument name argNames)
    | some t => bindKeywords argNames rest (kw.erase name) (inputs ++ [t])

/-- Lines 155-186 of `Executable.__call__`: the bound `input_tensors`, or the first
error raised. -/
def bindArguments (argNames : List String) (args : List α) (kwargs : KwArgs α) :
    Except BindError (List α) :=
  let numPositional := args.length
  let numArgs := numPositional + kwargs.length
  match bindKeywords argNames (argNames.drop numPositional) kwargs args with
  | .error e => .error e
  | .ok (inputs, kw) =>
    if !kw.entries.isEmpty then
      .error (.extraKeywordArguments kw.keys argNames (argNames.take numPositional))
    else if numArgs ≠ argNames.length then
      .error (.incorrectNumberOfArguments argNames.length numArgs argNames)
    else .ok inputs

theorem find?_congr_mem {β : Type} {p q : β → Bool} :
    ∀ {l : List β}, (∀ x ∈ l, p x = q x) → l.find? p = l.find? q
  | [], _ => rfl
  | a :: l, h => by
    simp only [List.find?_cons, h a (List.mem_cons_self a l),
      find?_congr_mem fun x hx => h x (List.mem_cons_of_mem a hx)]

/-- The loop in closed form: the first expected name that is not a key is reported;
otherwise every expected name is consumed, in declared order. -/
theorem bindKeywords_eq (argNames : List String) {ns : List String} (hns : ns.Nodup)
    (kw : KwArgs α) (inputs : List α) :
    bindKeywords argNames ns kw inputs =
      match ns.find? (· ∉ kw.keys) with
      | some name => .error (.missingArgument name argNames)
      | none => .ok (inputs ++ ns.filterMap kw.get?, kw.eraseAll ns) := by
  induction ns generalizing kw inputs with
  | nil => simp [bindKeywords]
  | cons n rest ih =>
    obtain ⟨hn, hrest⟩ := List.nodup_cons.mp hns
    by_cases hk : n ∈ kw.keys
    · obtain ⟨t, ht⟩ := Option.isSome_iff_exists.mp ((kw.isSome_get?_iff).mpr hk)
      have hne : ∀ m ∈ rest, m ∉ [n] := fun m hm => by simpa using ne_of_mem_of_not_mem hm hn
      have hfind : rest.find? (· ∉ (kw.erase n).keys) = rest.find? (· ∉ kw.keys) :=
        find?_congr_mem fun m hm => by simp [KwArgs.erase, ne_of_mem_of_not_mem hm hn]
      have hget : rest.filterMap (kw.eraseAll [n]).get? = rest.filterMap kw.get? :=
        List.filterMap_congr fun m hm => kw.get?_eraseAll (hne m hm)
      simp only [bindKeywords, ht, ih hrest, hfind]
      rw [List.find?_cons_of_neg _ (by simp [hk])]
      cases rest.find? (· ∉ kw.keys) <;>
        simp [hget, KwArgs.erase, KwArgs.eraseAll_eraseAll, List.filterMap_cons, ht]
    · simp [bindKeywords, (kw.get?_eq_none_iff).mpr hk, hk]

/-- `bindArguments` in closed form, one branch per error of lines 161-186. -/
theorem bindArguments_eq {argNames : List String} (hn : argNames.Nodup) (args : List α)
    (kwargs : KwArgs α) :
    bindArguments argNames args kwargs =
      match (argNames.drop args.length).find? (· ∉ kwargs.keys) with
      | some name => .error (.missingArgument name argNames)
      | none =>
        if kwargs.keys.filter (· ∉ argNames.drop args.length) ≠ [] then
          .error (.extraKeywordArguments (kwargs.keys.filter (· ∉ argNames.drop args.length))
            argNames (argNames.take args.length))
        else if args.length + kwargs.length ≠ argNames.length then
          .error (.incorrectNumberOfArguments argNames.length (args.length + kwargs.length)
            argNames)
        else .ok (args ++ (argNames.drop args.length).filterMap kwargs.get?) := by
  simp only [bindArguments, bindKeywords_eq argNames (hn.sublist (List.drop_sublist _ _))]
  cases (argNames.drop args.length).find? (· ∉ kwargs.keys) <;> simp [List.isEmpty_iff]


theorem getElem?_filterMap_of_isSome {β γ : Type} {f : β → Option γ} :
    ∀ {l : List β}, (∀ x ∈ l, (f x).isSome) → ∀ k : Nat, (l.filterMap f)[k]? = l[k]?.bind f
  | [], _, k => by simp
  | a :: l, h, k => by
    obtain ⟨b, hb⟩ := Option.isSome_iff_exists.mp (h a (List.mem_cons_self a l))
    have ih := getElem?_filterMap_of_isSome (fun x hx => h x (List.mem_cons_of_mem a hx))
    cases k <;> simp [List.filterMap_cons, hb, ih]

theorem length_filterMap_of_isSome {β γ : Type} {f : β → Option γ} {l : List β}
    (h : ∀ x ∈ l, (f x).isSome) : (l.filterMap f).length = l.length := by
  rw [List.length_filterMap_eq_countP, List.countP_eq_length]
  simpa using h

/-- Keys naming exactly the parameters after the positional ones are as many as those. -/
theorem length_of_keys_iff {argNames : List String} (hn : argNames.Nodup) {p : Nat}
    {kwargs : KwArgs α} (h : ∀ k, k ∈ kwargs.keys ↔ k ∈ argNames.drop p) :
    kwargs.length = argNames.length - p := by
  have hperm : kwargs.keys.Perm (argNames.drop p) :=
    (List.perm_ext_iff_of_nodup kwargs.nodup (hn.sublist (List.drop_sublist _ _))).mpr h
  rw [KwArgs.length_eq_keys_length, hperm.length_eq, List.length_drop]

theorem bindArguments_ok_iff {argNames : List String} (hn : argNames.Nodup) (args : List α)
    (kwargs : KwArgs α) :
    (∃ inputs, bindArguments argNames args kwargs = .ok inputs) ↔
      args.length ≤ argNames.length ∧ ∀ k, k ∈ kwargs.keys ↔ k ∈ argNames.drop args.length := by
  rw [bindArguments_eq hn]
  cases hf : (argNames.drop args.length).find? (· ∉ kwargs.keys) with
  | some name =>
    have hnot : name ∉ kwargs.keys := by simpa using List.find?_some hf
    simp only [reduceCtorEq, exists_false, false_iff, not_and]
    exact fun _ h => hnot ((h name).mpr (List.mem_of_find?_eq_some hf))
  | none =>
    have hall : ∀ k ∈ argNames.drop args.length, k ∈ kwargs.keys := by
      simpa using List.find?_eq_none.mp hf
    by_cases hx : kwargs.keys.filter (· ∉ argNames.drop args.length) = []
    · have hiff : ∀ k, k ∈ kwargs.keys ↔ k ∈ argNames.drop args.length := fun k =>
        ⟨fun hk => by simpa using List.filter_eq_nil_iff.mp hx k hk, hall k⟩
      have hlen := length_of_keys_iff hn hiff
      by_cases hl : args.length + kwargs.length = argNames.length
      · simpa [hx, hl, hiff] using (by omega : args.length ≤ argNames.length)
      · simp only [hx, hl, ne_eq, not_true_eq_false, if_false, not_false_eq_true, if_true,
          reduceCtorEq, exists_false, false_iff, not_and]
        intro hp; omega
    · simp only [hx, ne_eq, not_false_eq_true, if_true, reduceCtorEq, exists_false, false_iff,
        not_and]
      intro _ h
      exact hx (List.filter_eq_nil_iff.mpr fun k hk => by simpa using (h k).mp hk)

/-- Under the condition of `bindArguments_ok_iff`, the bound list is the positional
arguments followed by the keyword values in declared parameter order. -/
theorem bindArguments_eq_ok {argNames : List String} (hn : argNames.Nodup) {args : List α}
    {kwargs : KwArgs α} (hp : args.length ≤ argNames.length)
    (hk : ∀ k, k ∈ kwargs.keys ↔ k ∈ argNames.drop args.length) :
    bindArguments argNames args kwargs =
      .ok (args ++ (argNames.drop args.length).filterMap kwargs.get?) := by
  have hf : (argNames.drop args.length).find? (· ∉ kwargs.keys) = none := by
    simpa using fun k h => (hk k).mpr h
  have hx : kwargs.keys.filter (· ∉ argNames.drop args.length) = [] :=
    List.filter_eq_nil_iff.mpr (by simpa using fun k h => (hk k).mp h)
  have hl := length_of_keys_iff hn hk
  rw [bindArguments_eq hn, hf]
  simp only [hx, show args.length + kwargs.length = argNames.length by omega, ne_eq,
    not_true_eq_false, if_false]

example : bindArguments ["a", "b"] [1] ⟨[("b", 2)], by decide⟩ = .ok [1, 2] := rfl

theorem bindArguments_ok_getElem? {argNames : List String} (hn : argNames.Nodup)
    {args inputs : List α} {kwargs : KwArgs α}
    (h : bindArguments argNames args kwargs = .ok inputs) :
    inputs.length = argNames.length ∧ ∀ i (hi : i < argNames.length),
      (i < args.length → inputs[i]? = args[i]?) ∧
      (args.length ≤ i → inputs[i]? = kwargs.get? argNames[i]) := by
  obtain ⟨hp, hk⟩ := (bindArguments_ok_iff hn args kwargs).mp ⟨_, h⟩
  rw [bindArguments_eq_ok hn hp hk] at h
  injection h with h
  subst h
  have hsome : ∀ x ∈ argNames.drop args.length, (kwargs.get? x).isSome :=
    fun x hx => (kwargs.isSome_get?_iff).mpr ((hk x).mpr hx)
  refine ⟨by simp [length_filterMap_of_isSome hsome]; omega, fun i hi =>
    ⟨fun hlt => List.getElem?_append_left hlt, fun hle => ?_⟩⟩
  rw [List.getElem?_append_right hle, getElem?_filterMap_of_isSome hsome, List.getElem?_drop,
    Nat.add_sub_cancel' hle, List.getElem?_eq_getElem hi]
  rfl

/-- Any split of the values `vs` into a positional prefix and keywords, the keywords in
any order, binds to `vs`. -/
theorem bindArguments_split {argNames : List String} (hn : argNames.Nodup) {vs : List α}
    (hvs : vs.length = argNames.length) {p : Nat} (hp : p ≤ argNames.length) {kw : KwArgs α}
    (hkw : kw.entries.Perm ((argNames.drop p).zip (vs.drop p))) :
    bindArguments argNames (vs.take p) kw = .ok vs := by
  have htake : (vs.take p).length = p := by simp; omega
  have hkeys : kw.keys.Perm (argNames.drop p) := by
    simpa [List.map_fst_zip _ _ (by simp; omega : (argNames.drop p).length ≤ (vs.drop p).length)]
      using hkw.map Prod.fst
  have hk : ∀ k, k ∈ kw.keys ↔ k ∈ argNames.drop (vs.take p).length := by
    rw [htake]; exact fun k => hkeys.mem_iff
  rw [bindArguments_eq_ok hn (by rw [htake]; exact hp) hk, htake]
  conv_rhs => rw [← List.take_append_drop p vs]
  refine congrArg (fun l => (Except.ok (vs.take p ++ l) : Except BindError (List α)))
    (List.ext_getElem? fun i => ?_)
  rw [getElem?_filterMap_of_isSome fun x hx => (kw.isSome_get?_iff).mpr (hkeys.mem_iff.mpr hx)]
  cases hi : (argNames.drop p)[i]? with
  | none =>
    have := List.getElem?_eq_none_iff.mp hi
    simp only [Option.none_bind]
    exact (List.getElem?_eq_none_iff.mpr (by simp at this ⊢; omega)).symm
  | some a =>
    have hlt : i < (argNames.drop p).length := (List.getElem?_eq_some_iff.mp hi).1
    obtain ⟨b, hb⟩ : ∃ b, (vs.drop p)[i]? = some b :=
      ⟨_, List.getElem?_eq_getElem (by simp at hlt ⊢; omega)⟩
    have hz : (a, b) ∈ kw.entries :=
      hkw.mem_iff.mpr (List.getElem?_mem (List.getElem?_zip_eq_some.mpr ⟨hi, hb⟩))
    simp [hb, (kw.get?_eq_some_iff).mpr hz]

/-- The hand-written binding agrees with the standard binding of `__signature__`: it
succeeds exactly when that would, binds parameter `i` to `args[i]` or to the keyword of
its name, and so binds the same list whatever the split into positional and keyword
arguments and whatever the keyword order. -/
theorem bindArguments_matches_signature {argNames : List String} (hn : argNames.Nodup)
    (args : List α) (kwargs : KwArgs α) :
    ((∃ inputs, bindArguments argNames args kwargs = .ok inputs) ↔
        args.length ≤ argNames.length ∧
          ∀ k, k ∈ kwargs.keys ↔ k ∈ argNames.drop args.length) ∧
    (∀ inputs, bindArguments argNames args kwargs = .ok inputs →
        inputs.length = argNames.length ∧ ∀ i (hi : i < argNames.length),
          (i < args.length → inputs[i]? = args[i]?) ∧
          (args.length ≤ i → inputs[i]? = kwargs.get? argNames[i])) ∧
    (∀ (vs : List α) (p : Nat) (kw : KwArgs α), vs.length = argNames.length →
        p ≤ argNames.length → kw.entries.Perm ((argNames.drop p).zip (vs.drop p)) →
        bindArguments argNames (vs.take p) kw = .ok vs) :=
  ⟨bindArguments_ok_iff hn args kwargs, fun _ h => bindArguments_ok_getElem? hn h,
    fun _ _ _ hvs hp hkw => bindArguments_split hn hvs hp hkw⟩

theorem bindArguments_matches_signature_ab :
    (["a", "b"] : List String).Nodup ∧
    ((∃ inputs, bindArguments ["a", "b"] [1] ⟨[("b", 2)], by decide⟩ = .ok inputs) ↔
        [1].length ≤ ["a", "b"].length ∧
          ∀ k, k ∈ (⟨[("b", 2)], by decide⟩ : KwArgs Nat).keys ↔ k ∈ ["a", "b"].drop [1].length) ∧
    (∀ inputs, bindArguments ["a", "b"] [1] ⟨[("b", 2)], by decide⟩ = .ok inputs →
        inputs.length = ["a", "b"].length ∧ ∀ i (hi : i < ["a", "b"].length),
          (i < [1].length → inputs[i]? = [1][i]?) ∧
          ([1].length ≤ i → inputs[i]? =
            (⟨[("b", 2)], by decide⟩ : KwArgs Nat).get? ["a", "b"][i])) ∧
    (∀ (vs : List Nat) (p : Nat) (kw : KwArgs Nat), vs.length = ["a", "b"].length →
        p ≤ ["a", "b"].length → kw.entries.Perm ((["a", "b"].drop p).zip (vs.drop p)) →
        bindArguments ["a", "b"] (vs.take p) kw = .ok vs) :=
  ⟨by decide, bindArguments_matches_signature (by decide) _ _⟩

/-- Which error a failed binding raises: the first missing parameter, else the keywords
that name no parameter after the positional ones (in insertion order), else the count,
which is reached only with too many positional arguments and no keywords. -/
theorem bindArguments_error_cases {argNames : List String} (hn : argNames.Nodup)
    {args : List α} {kwargs : KwArgs α} {e : BindError}
    (h : bindArguments argNames args kwargs = .error e) :
    (∀ name, (argNames.drop args.length).find? (· ∉ kwargs.keys) = some name →
      e = .missingArgument name argNames) ∧
    ((argNames.drop args.length).find? (· ∉ kwargs.keys) = none →
      kwargs.keys.filter (· ∉ argNames.drop args.length) ≠ [] →
      e = .extraKeywordArguments (kwargs.keys.filter (· ∉ argNames.drop args.length)) argNames
        (argNames.take args.length)) ∧
    ((argNames.drop args.length).find? (· ∉ kwargs.keys) = none →
      kwargs.keys.filter (· ∉ argNames.drop args.length) = [] →
      e = .incorrectNumberOfArguments argNames.length (args.length + kwargs.length) argNames ∧
        argNames.length < args.length ∧ kwargs.entries = []) := by
  rw [bindArguments_eq hn] at h
  refine ⟨fun name hf => ?_, fun hf hx => ?_, fun hf hx => ?_⟩
  · rw [hf] at h
    exact (Except.error.inj h).symm
  · rw [hf] at h
    exact (Except.error.inj ((if_pos hx).symm.trans h)).symm
  · rw [hf] at h
    have hall : ∀ k ∈ argNames.drop args.length, k ∈ kwargs.keys := by
      simpa using List.find?_eq_none.mp hf
    have hiff : ∀ k, k ∈ kwargs.keys ↔ k ∈ argNames.drop args.length := fun k =>
      ⟨fun hk => by simpa using List.filter_eq_nil_iff.mp hx k hk, hall k⟩
    have hlen := length_of_keys_iff hn hiff
    have h' := (if_neg (not_not.mpr hx)).symm.trans h
    by_cases hl : args.length + kwargs.length = argNames.length
    · simp [hl] at h'
    · rw [if_pos hl] at h'
      replace h := (Except.error.inj h').symm
      have hp : argNames.length < args.length := by omega
      have hnil : kwargs.keys = [] := List.eq_nil_iff_forall_not_mem.mpr fun k hk => by
        simpa [List.drop_eq_nil_of_le hp.le] using (hiff k).mp hk
      exact ⟨h, hp, by simpa [KwArgs.keys] using hnil⟩

/-- The order of the keywords does not matter to the binding, except for the order in
which an extra-keyword error lists the names it reports. -/
theorem bindArguments_perm {argNames : List String} (hn : argNames.Nodup) (args : List α)
    {kw₁ kw₂ : KwArgs α} (hp : kw₁.entries.Perm kw₂.entries) :
    bindArguments argNames args kw₁ = bindArguments argNames args kw₂ ∨
    ∃ ns₁ ns₂ : List String, ns₁.Perm ns₂ ∧
      bindArguments argNames args kw₁ =
        .error (.extraKeywordArguments ns₁ argNames (argNames.take args.length)) ∧
      bindArguments argNames args kw₂ =
        .error (.extraKeywordArguments ns₂ argNames (argNames.take args.length)) := by
  have hkeys : kw₁.keys.Perm kw₂.keys := hp.map Prod.fst
  have hfind : (argNames.drop args.length).find? (· ∉ kw₁.keys) =
      (argNames.drop args.length).find? (· ∉ kw₂.keys) :=
    find?_congr_mem fun k _ => by simp only [hkeys.mem_iff]
  have hfil := hkeys.filter fun k => decide (k ∉ argNames.drop args.length)
  have hnil : kw₁.keys.filter (· ∉ argNames.drop args.length) = [] ↔
      kw₂.keys.filter (· ∉ argNames.drop args.length) = [] := by
    rw [← List.length_eq_zero, hfil.length_eq, List.length_eq_zero]
  rw [bindArguments_eq hn, bindArguments_eq hn, hfind, show kw₁.length = kw₂.length from
    hp.length_eq, funext (kw₁.get?_eq_of_perm hp)]
  rcases (argNames.drop args.length).find? (· ∉ kw₂.keys) with _ | name
  · by_cases hx : kw₁.keys.filter (· ∉ argNames.drop args.length) = []
    · exact .inl (by simp only [hx, hnil.mp hx, ne_eq, not_true_eq_false, if_false])
    · exact .inr ⟨_, _, hfil, if_pos hx, if_pos (mt hnil.mpr hx)⟩
  · exact .inl rfl

end Tripy.Binding
