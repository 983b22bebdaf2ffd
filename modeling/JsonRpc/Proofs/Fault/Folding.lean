import JsonRpc.Fault

namespace JsonRpc

namespace ErrorChain

/-- The code and the data that an error stands for. Other errors stand for none. -/
inductive Denotes : ErrorKind → FaultCode → Option Json → Prop
  | fault (fault : Fault) : Denotes (.fault fault) fault.code fault.data
  | token : Denotes .token .authorization none
  | forbidden : Denotes .forbidden .forbidden none

def wrap (texts : List String) (chain : ErrorChain) : ErrorChain :=
  texts.foldr (fun text source => .caused text .other source) chain

theorem verdict?_eq_some_iff {kind : ErrorKind} {code : FaultCode} {data : Option Json} :
    ErrorKind.verdict? kind = some (code, data) ↔ Denotes kind code data := by
  constructor
  · intro decided
    cases kind with
    | fault fault =>
      cases decided
      exact .fault fault
    | token =>
      cases decided
      exact .token
    | forbidden =>
      cases decided
      exact .forbidden
    | other => cases decided
  · intro denotes
    cases denotes <;> rfl

theorem verdict_eq (chain : ErrorChain) :
    chain.verdict = (chain.kinds.findSome? ErrorKind.verdict?).getD (.server, none) := by
  induction chain with
  | last text kind =>
    rw [verdict, kinds, List.findSome?_cons]
    cases ErrorKind.verdict? kind <;> rfl
  | caused text kind source hypothesis =>
    rw [verdict, kinds, List.findSome?_cons]
    cases ErrorKind.verdict? kind with
    | none => exact hypothesis
    | some decided => rfl

theorem findSome?_unrelated {outer : List ErrorKind} (unrelated : ∀ kind ∈ outer, kind = .other) :
    outer.findSome? ErrorKind.verdict? = none := by
  refine List.findSome?_eq_none_iff.mpr fun kind member => ?_
  rw [unrelated kind member]
  rfl

theorem verdict_of_first {chain : ErrorChain} {outer inner : List ErrorKind} {kind : ErrorKind}
    {code : FaultCode} {data : Option Json} (split : chain.kinds = outer ++ kind :: inner)
    (unrelated : ∀ kind ∈ outer, kind = .other) (denotes : Denotes kind code data) :
    chain.verdict = (code, data) := by
  rw [verdict_eq, split, List.findSome?_append, findSome?_unrelated unrelated, Option.none_or,
    List.findSome?_cons, verdict?_eq_some_iff.mpr denotes]
  rfl

theorem verdict_of_unrelated {chain : ErrorChain} (unrelated : ∀ kind ∈ chain.kinds, kind = .other) :
    chain.verdict = (.server, none) := by
  rw [verdict_eq, findSome?_unrelated unrelated]
  rfl

theorem verdict_wrap (texts : List String) (chain : ErrorChain) :
    (wrap texts chain).verdict = chain.verdict := by
  induction texts with
  | nil => rfl
  | cons text texts hypothesis => exact hypothesis

theorem text_wrap (texts : List String) (chain : ErrorChain) :
    (wrap texts chain).text = texts.headD chain.text := by
  cases texts <;> rfl

theorem toFault_wrap (texts : List String) (chain : ErrorChain) :
    (wrap texts chain).toFault = { chain.toFault with message := texts.headD chain.text } := by
  rw [toFault, verdict_wrap, text_wrap]
  rfl

/-- What is so of the fault of every chain of errors. -/
structure Folds (chain : ErrorChain) : Prop where
  message : chain.toFault.message = chain.text
  decided : ∀ outer kind inner code data, chain.kinds = outer ++ kind :: inner →
    (∀ kind ∈ outer, kind = .other) → Denotes kind code data →
      chain.toFault.code = code ∧ chain.toFault.data = data
  undecided : (∀ kind ∈ chain.kinds, kind = .other) →
    chain.toFault.code = .server ∧ chain.toFault.data = none
  /-- Nothing is changed by what lies below an error that stands for a code. -/
  shielded : ∀ texts text kind code data, Denotes kind code data →
    (wrap texts (.caused text kind chain)).toFault = (wrap texts (.last text kind)).toFault
  wrapped : ∀ texts,
    (wrap texts chain).toFault = { chain.toFault with message := texts.headD chain.text }
  fault : ∀ fault : Fault, chain.kinds.head? = some (.fault fault) →
    chain.text = fault.message → chain.toFault = fault
  token : chain.kinds.head? = some .token → chain.toFault = Fault.ofToken chain.text
  forbidden : chain.kinds.head? = some .forbidden → chain.toFault = Fault.ofForbidden chain.text

theorem toFault_of_head {chain : ErrorChain} {kind : ErrorKind} {code : FaultCode}
    {data : Option Json} (first : chain.kinds.head? = some kind) (denotes : Denotes kind code data) :
    chain.toFault = { code, message := chain.text, data } := by
  obtain ⟨inner, whole⟩ := List.head?_eq_some_iff.mp first
  have split : chain.kinds = [] ++ kind :: inner := whole
  have alone : ∀ kind ∈ ([] : List ErrorKind), kind = .other := by simp
  rw [toFault, verdict_of_first split alone denotes]

/-- Every chain of errors is folded into the fault that the outermost of them that stands for a code
asks for, under the text of the outermost of all. -/
theorem toFault_folds (chain : ErrorChain) : chain.Folds where
  message := rfl
  decided := by
    intro outer kind inner code data split unrelated denotes
    rw [toFault, verdict_of_first split unrelated denotes]
    exact ⟨rfl, rfl⟩
  undecided := by
    intro unrelated
    rw [toFault, verdict_of_unrelated unrelated]
    exact ⟨rfl, rfl⟩
  shielded := by
    intro texts text kind code data denotes
    have above : toFault (.caused text kind chain) = toFault (.last text kind) := by
      rw [toFault_of_head rfl denotes, toFault_of_head rfl denotes]
      rfl
    rw [toFault_wrap, toFault_wrap, above]
    rfl
  wrapped texts := toFault_wrap texts chain
  fault := by
    intro fault first same
    rw [toFault_of_head first (.fault fault), same]
  token first := toFault_of_head first .token
  forbidden first := toFault_of_head first .forbidden

end ErrorChain

end JsonRpc
