import PakeRegistration.Proofs.Classification
import PakeRegistration.Proofs.CommandLine

namespace PakeRegistration

open Outcome

namespace CommandLine

section Input

variable (stdin : Text)

def fields? : Option (List (Text × Json)) :=
  match input stdin with
  | .ok (.object fields) => some fields
  | _ => none

def field? (name : String) : Option Json :=
  (fields? stdin).bind (Json.field? name)

def text? (name : String) : Option Text :=
  match field? stdin name with
  | some (.string t) => some t
  | _ => none

def octets? (name : String) : Option Bytes :=
  (text? stdin name).bind fun t => (Base64Url.decode t).toOption

end Input

/-- What is asked of a text before a registration is finished with it. -/
inductive Check
  | json
  | object
  | present (name : String)
  | text (name : String)
  | digits (name : String)
  | state
  | response
  | costs
  | keyPair
deriving DecidableEq, Repr

namespace Check

def ofField (name : String) : List Check := [.present name, .text name, .digits name]

/-- The order in which it is asked: both fields are octets before either of them is decoded. -/
def order : List Check :=
  [.json] ++ ([.object] ++ (ofField "state" ++ (ofField "response" ++ [.state, .response, .costs, .keyPair])))

def categories : Check → List Category
  | .json => [.json]
  | .object | .text _ => [.type]
  | .present _ => [.key]
  | .digits _ => [.value]
  | .state => [.truncated, .version, .decode, .trailing, .scalar]
  | .response => [.truncated, .trailing, .groupElement]
  | .costs => [.slowHash]
  | .keyPair => [.protocol]

end Check

def refusal? {ε α : Type} : Except ε α → Option ε
  | .ok _ => none
  | .error e => some e

section Faults

variable (suite : CipherSuite) (stdin : Text)

structure Given (state : ClientState) (response : RegistrationResponse) : Prop where
  state : ∃ data, octets? stdin "state" = some data ∧ ClientState.decode data = .ok state
  response : ∃ data, octets? stdin "response" = some data ∧ RegistrationResponse.decode suite.group data = .ok response

def Accepted : Prop :=
  (∃ state response, Given suite stdin state response) ∧ suite.slowHash.fault? = none

def seed? : Option Bytes := do
  let state ← (ClientState.decode (← octets? stdin "state")).toOption
  let response ← (RegistrationResponse.decode suite.group (← octets? stdin "response")).toOption
  let output ← (Oprf.finalize suite.group state.password state.blind response.evaluatedElement).toOption
  return (Client.keysOf suite.slowHash output).seed

/-- There is a seed all of whose 256 scalars are zero. -/
def Exhausted : Prop :=
  ∃ seed ∈ seed? suite stdin, ¬KeyPair.Derivable seed KeyPair.defaultInfo

/-- What is wrong with a text in one respect, if the text has what this is about. -/
def Check.fault? : Check → Option Error
  | .json => (refusal? (input stdin)).map .argument
  | .object =>
      match input stdin with
      | .ok v => if v.kind = .object then none else some (.argument (.noFields v.kind))
      | .error _ => none
  | .present name =>
      (fields? stdin).bind fun fields =>
        if (Json.field? name fields).isNone then some (.argument (.missingField name)) else none
  | .text name =>
      (field? stdin name).bind fun v =>
        if v.kind = .string then none else some (.argument (.text (.notText v.kind)))
  | .digits name => (text? stdin name).bind fun t => (refusal? (Base64Url.decode t)).map fun e => .argument (.text e)
  | .state => (octets? stdin "state").bind fun data => (refusal? (ClientState.decode data)).map .decode
  | .response =>
      (octets? stdin "response").bind fun data => (refusal? (RegistrationResponse.decode suite.group data)).map .decode
  | .costs => suite.slowHash.fault?.map fun fault => .slowHash (.parameters fault)
  | .keyPair =>
      (seed? suite stdin).bind fun seed =>
        if KeyPair.Derivable seed KeyPair.defaultInfo then none else some (.protocol .keyPairExhausted)

def firstFault? (checks : List Check) : Option (Check × Error) :=
  checks.findSome? fun check => (check.fault? suite stdin).map fun e => (check, e)

end Faults

section Judged

variable {suite : CipherSuite} {stdin : Text}

theorem fields?_eq_some_iff (fields : List (Text × Json)) :
    fields? stdin = some fields ↔ input stdin = .ok (.object fields) := by
  rw [fields?]
  split
  next fields' h => rw [h, Option.some.injEq, Except.ok.injEq, Json.object.injEq]
  next h => exact iff_of_false (by simp) fun hobject => h fields hobject

theorem text?_eq_some_iff (name : String) (t : Text) :
    text? stdin name = some t ↔
      ∃ fields, input stdin = .ok (.object fields) ∧ Json.field? name fields = some (.string t) := by
  have hfield : text? stdin name = some t ↔ field? stdin name = some (.string t) := by
    rw [text?]
    split
    next t' h => rw [h, Option.some.injEq, Option.some.injEq, Json.string.injEq]
    next h => exact iff_of_false (by simp) fun hstring => h t hstring
  rw [hfield, field?, Option.bind_eq_some_iff]
  simp only [fields?_eq_some_iff]

theorem octets?_eq_some_iff (name : String) (data : Bytes) :
    octets? stdin name = some data ↔
      ∃ fields t, input stdin = .ok (.object fields) ∧ Json.field? name fields = some (.string t) ∧
        Base64Url.decode t = .ok data := by
  simp only [octets?, Option.bind_eq_some_iff, text?_eq_some_iff, toOption_eq_some_iff]
  constructor
  · rintro ⟨t, ⟨fields, hinput, hfield⟩, hdata⟩
    exact ⟨fields, t, hinput, hfield, hdata⟩
  · rintro ⟨fields, t, hinput, hfield, hdata⟩
    exact ⟨t, ⟨fields, hinput, hfield⟩, hdata⟩

theorem fault?_ofField {name : String} {data : Bytes} (h : octets? stdin name = some data) {check : Check}
    (hmem : check ∈ Check.ofField name) : check.fault? suite stdin = none := by
  obtain ⟨fields, t, hinput, hfield, hdata⟩ := (octets?_eq_some_iff name data).mp h
  have hfields := (fields?_eq_some_iff fields).mpr hinput
  have htext := (text?_eq_some_iff name t).mpr ⟨fields, hinput, hfield⟩
  simp only [Check.ofField, List.mem_cons, List.not_mem_nil, or_false] at hmem
  rcases hmem with rfl | rfl | rfl
  · rw [Check.fault?, hfields, Option.bind_some, hfield]
    rfl
  · rw [Check.fault?, field?, hfields, Option.bind_some, hfield]
    rfl
  · rw [Check.fault?, htext, Option.bind_some, hdata]
    rfl

theorem fault?_order (h : Accepted suite stdin) (hne : ¬Exhausted suite stdin) {check : Check}
    (hmem : check ∈ Check.order) : check.fault? suite stdin = none := by
  obtain ⟨⟨t, m, ⟨state, hs, ht⟩, ⟨response, hr, hm⟩⟩, hcosts⟩ := h
  obtain ⟨fields, _, hinput, _⟩ := (octets?_eq_some_iff _ _).mp hs
  simp only [Check.order, List.mem_append] at hmem
  rcases hmem with hmem | hmem | hmem | hmem | hmem
  · rw [List.mem_singleton.mp hmem, Check.fault?, hinput]
    rfl
  · rw [List.mem_singleton.mp hmem, Check.fault?, hinput]
    rfl
  · exact fault?_ofField hs hmem
  · exact fault?_ofField hr hmem
  · simp only [List.mem_cons, List.not_mem_nil, or_false] at hmem
    rcases hmem with rfl | rfl | rfl | rfl
    · rw [Check.fault?, hs, Option.bind_some, ht]
      rfl
    · rw [Check.fault?, hr, Option.bind_some, hm]
      rfl
    · rw [Check.fault?, hcosts]
      rfl
    · rw [Check.fault?, Option.bind_eq_none_iff]
      intro seed hseed
      exact if_pos (not_not.mp fun hd => hne ⟨seed, hseed, hd⟩)

theorem refusal?_eq_some_iff {ε α : Type} (x : Except ε α) (e : ε) : refusal? x = some e ↔ x = .error e := by
  cases x <;> simp [refusal?]

/-- A text of JSON, or one that is none for its form, and not for the size of a number or the depth of its parts. -/
def WithinLimits (stdin : Text) : Prop :=
  ∀ e, Json.Reader.read stdin = .error e → ∃ fault place, e = .malformed fault place

theorem withinLimits_of_isSome (h : (Json.Reader.read stdin).toOption.isSome) : WithinLimits stdin := by
  intro e he
  rw [he] at h
  cases h

theorem base64Category_of_decode {t : Text} {fault : Base64Url.Fault} (h : Base64Url.decode t = .error fault) :
    ArgumentError.base64Category fault = .value := by
  unfold Base64Url.decode at h
  split at h
  · cases h
    rfl
  · split at h
    all_goals cases h
    rfl

theorem Check.said (hl : WithinLimits stdin) {check : Check} {e : Error} (h : check.fault? suite stdin = some e) :
    e.category ∈ check.categories ∧ ∀ c ∈ e.message, ¬c.IsSurrogate := by
  cases check with
  | json =>
      simp only [Check.fault?, Option.map_eq_some_iff, refusal?_eq_some_iff, input, mapError_eq_error_iff] at h
      obtain ⟨_, ⟨found, hread, rfl⟩, rfl⟩ := h
      obtain ⟨fault, place, rfl⟩ := hl found hread
      exact ⟨List.mem_singleton_self _, Text.not_isSurrogate_ofString _⟩
  | object =>
      simp only [Check.fault?] at h
      split at h
      · split at h
        all_goals cases h
        exact ⟨List.mem_singleton_self _, Text.not_isSurrogate_ofString _⟩
      · cases h
  | present name =>
      simp only [Check.fault?, Option.bind_eq_some_iff] at h
      obtain ⟨fields, _, h⟩ := h
      split at h
      all_goals cases h
      exact ⟨List.mem_singleton_self _, Text.not_isSurrogate_quoted (Text.not_isSurrogate_ofString _)⟩
  | text name =>
      simp only [Check.fault?, Option.bind_eq_some_iff] at h
      obtain ⟨v, _, h⟩ := h
      split at h
      all_goals cases h
      exact ⟨List.mem_singleton_self _, Text.not_isSurrogate_ofString _⟩
  | digits name =>
      simp only [Check.fault?, Option.bind_eq_some_iff, Option.map_eq_some_iff, refusal?_eq_some_iff] at h
      obtain ⟨t, _, fault, hfault, rfl⟩ := h
      refine ⟨List.mem_singleton.mpr ?_, Text.not_isSurrogate_ofString _⟩
      exact base64Category_of_decode hfault
  | state =>
      simp only [Check.fault?, Option.bind_eq_some_iff, Option.map_eq_some_iff, refusal?_eq_some_iff] at h
      obtain ⟨data, _, fault, hfault, rfl⟩ := h
      exact ⟨ClientState.classified.category_mem data fault hfault, ClientState.not_isSurrogate_message hfault⟩
  | response =>
      simp only [Check.fault?, Option.bind_eq_some_iff, Option.map_eq_some_iff, refusal?_eq_some_iff] at h
      obtain ⟨data, _, fault, hfault, rfl⟩ := h
      exact ⟨(RegistrationResponse.classified suite.group).category_mem data fault hfault,
        RegistrationResponse.not_isSurrogate_message hfault⟩
  | costs =>
      simp only [Check.fault?, Option.map_eq_some_iff] at h
      obtain ⟨fault, _, rfl⟩ := h
      exact ⟨List.mem_singleton_self _, Text.not_isSurrogate_ofString _⟩
  | keyPair =>
      simp only [Check.fault?, Option.bind_eq_some_iff] at h
      obtain ⟨seed, _, h⟩ := h
      split at h
      all_goals cases h
      exact ⟨List.mem_singleton_self _, Text.not_isSurrogate_ofString _⟩

theorem isReported_of_mem_categories {check : Check} {c : Category} (h : c ∈ check.categories) :
    isReported c = true := by
  cases check
  all_goals simp only [Check.categories, List.mem_cons, List.not_mem_nil, or_false] at h
  all_goals rcases h with rfl | rfl | rfl | rfl | rfl
  all_goals rfl

theorem firstFault?_of_fault {check : Check} {e : Error} (h : check.fault? suite stdin = some e) (checks : List Check) :
    firstFault? suite stdin (check :: checks) = some (check, e) := by
  rw [firstFault?, List.findSome?_cons, h]
  rfl

theorem firstFault?_of_none {check : Check} (h : check.fault? suite stdin = none) (checks : List Check) :
    firstFault? suite stdin (check :: checks) = firstFault? suite stdin checks := by
  rw [firstFault?, List.findSome?_cons, h]
  rfl

theorem exists_of_firstFault? {checks : List Check} {check : Check} {e : Error}
    (h : firstFault? suite stdin checks = some (check, e)) : check ∈ checks ∧ check.fault? suite stdin = some e := by
  obtain ⟨found, hmem, hfound⟩ := List.exists_of_findSome?_eq_some h
  obtain ⟨e', he', heq⟩ := Option.map_eq_some_iff.mp hfound
  cases heq
  exact ⟨hmem, he'⟩

theorem not_accepted_of_firstFault? {check : Check} {e : Error}
    (h : firstFault? suite stdin Check.order = some (check, e)) : ¬(Accepted suite stdin ∧ ¬Exhausted suite stdin) := by
  rintro ⟨haccepted, hne⟩
  obtain ⟨hmem, hfault⟩ := exists_of_firstFault? h
  rw [fault?_order haccepted hne hmem] at hfault
  cases hfault

end Judged

end CommandLine

end PakeRegistration
