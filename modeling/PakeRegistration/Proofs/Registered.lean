import PakeRegistration.Proofs.Levels
import PakeRegistration.Proofs.Utf8

namespace PakeRegistration

open Outcome

namespace Host.Password

inductive Item : Json → UInt8 → Prop
  | bool (b : Bool) : Item (.bool b) (if b then 1 else 0)
  | int (octet : UInt8) : Item (.int octet.toNat) octet

/-- What a value is registered as: a text as its UTF-8 octets, a number as so many zero octets, and a truth value like
zero or one; an array as its items, and an empty object as nothing. -/
inductive Registered : Json → Bytes → Prop
  | text {t : Text} {octets : Bytes} (h : t.utf8 = .ok octets) : Registered (.string t) octets
  | count (n : Nat) : Registered (.int n) (Bytes.zeros n)
  | bool (b : Bool) : Registered (.bool b) (Bytes.zeros (if b then 1 else 0))
  | array {items : List Json} {octets : Bytes} (h : List.Forall₂ Item items octets) : Registered (.array items) octets
  | empty : Registered (.object []) []

theorem itemOctet_eq_ok_iff (v : Json) (octet : UInt8) : itemOctet v = .ok octet ↔ Item v octet := by
  constructor
  · intro h
    unfold itemOctet at h
    split at h
    next b =>
      cases h
      exact .bool b
    next n =>
      split at h
      next hn =>
        cases h
        obtain ⟨m, rfl⟩ := Int.eq_ofNat_of_zero_le hn.1
        have hitem := Item.int (UInt8.ofNat m)
        rwa [UInt8.toNat_ofNat_of_lt' (Int.ofNat_lt.mp hn.2)] at hitem
      · cases h
    · cases h
  · rintro (b | octet)
    · rfl
    · have hlt := octet.toNat_lt
      rw [itemOctet, if_pos (by omega), Int.toNat_natCast, UInt8.ofNat_toNat]

theorem zeroOctets_eq_ok_iff (count : Int) (octets : Bytes) :
    zeroOctets count = .ok octets ↔
      ∃ n : Nat, count = n ∧ n ≤ ClientState.maxPassword ∧ octets = Bytes.zeros n := by
  have hmax : ClientState.maxPassword < Bytes.maxLength := by decide
  have hlength : Bytes.maxLength < 0x8000000000000000 := by decide
  simp only [zeroOctets, ite_error_eq_ok_iff, Except.ok.injEq]
  constructor
  · rintro ⟨_, hnonneg, _, hle, rfl⟩
    exact ⟨count.toNat, by omega, by omega, rfl⟩
  · rintro ⟨n, rfl, hle, rfl⟩
    exact ⟨by omega, by omega, by omega, by omega, rfl⟩

theorem toOctets_eq_ok_iff (v : Json) {octets : Bytes} (hl : octets.length ≤ ClientState.maxPassword) :
    (Password.value v).toOctets = .ok octets ↔ Registered v octets := by
  constructor
  · intro h
    cases v with
    | null | decimal => cases h
    | bool b =>
        obtain ⟨n, hn, _, rfl⟩ := (zeroOctets_eq_ok_iff _ _).mp h
        cases b <;> cases hn
        · exact .bool false
        · exact .bool true
    | int n =>
        obtain ⟨n, rfl, _, rfl⟩ := (zeroOctets_eq_ok_iff _ _).mp h
        exact .count n
    | string t => exact .text ((mapError_eq_ok_iff _ _ _).mp h)
    | array items =>
        rw [toOctets, mapError_eq_ok_iff, mapM_eq_ok_iff] at h
        exact .array (h.imp fun v octet => (itemOctet_eq_ok_iff v octet).mp)
    | object fields =>
        cases fields with
        | nil =>
            cases h
            exact .empty
        | cons => cases h
  · intro h
    cases h with
    | text ht => rw [toOctets, ht, mapError_ok]
    | count n =>
        rw [Bytes.zeros_length] at hl
        exact (zeroOctets_eq_ok_iff _ _).mpr ⟨n, rfl, hl, rfl⟩
    | bool b => cases b <;> rfl
    | array hitems =>
        rw [toOctets, mapError_eq_ok_iff, mapM_eq_ok_iff]
        exact hitems.imp fun v octet => (itemOctet_eq_ok_iff v octet).mpr
    | empty => rfl

end Host.Password

namespace Host

open Password

variable {suite : CipherSuite} {source : RandomSource} {v : Json}

theorem exists_of_start {handle : StartHandle} (h : (start suite source (.value v)).outcome = .ok handle) :
    ∃ state, ClientState.decode handle.state = .ok state ∧ Registered v state.password := by
  rw [start_outcome, bind_eq_ok_iff] at h
  obtain ⟨octets, hoctets, h⟩ := h
  rw [bind_eq_ok_iff] at h
  obtain ⟨started, hstarted, h⟩ := h
  rw [bind_eq_ok_iff] at h
  obtain ⟨data, hdata, h⟩ := h
  cases h
  obtain ⟨hl, hpassword, data', hdata', hdecode⟩ := Client.exists_state hstarted
  cases hdata.symm.trans hdata'
  exact ⟨_, hdecode, hpassword ▸ (toOctets_eq_ok_iff v hl).mp hoctets⟩

theorem exists_start {octets : Bytes} {started : Client.Started} (hv : Registered v octets)
    (hs : (Client.start suite source octets).outcome = .ok started) :
    ∃ handle state, (start suite source (.value v)).outcome = .ok handle ∧
      ClientState.decode handle.state = .ok state ∧ state.password = octets := by
  obtain ⟨hl, hpassword, data, hdata, hdecode⟩ := Client.exists_state hs
  exact ⟨_, _, start_of_octets ((toOctets_eq_ok_iff v hl).mpr hv) hs hdata, hdecode, hpassword⟩

end Host

namespace CommandLine

open Host.Password

def Emits (stdout : Text) (octets : Bytes) : Prop :=
  ∃ v data state, input stdout = .ok v ∧ octetsField v "state" = .ok data ∧ ClientState.decode data = .ok state ∧
    state.password = octets

/-- The password is a text, and its UTF-8 octets are those that are written. -/
def Kept (stdin stdout : Text) : Prop :=
  ∃ t octets, password stdin = .ok (.string t) ∧ t.utf8 = .ok octets ∧ Emits stdout octets

theorem Emits.unique {stdout : Text} {octets octets' : Bytes} (h : Emits stdout octets) (h' : Emits stdout octets') :
    octets = octets' := by
  obtain ⟨v, data, state, hv, hdata, hstate, rfl⟩ := h
  obtain ⟨v', data', state', hv', hdata', hstate', rfl⟩ := h'
  cases hv.symm.trans hv'
  cases hdata.symm.trans hdata'
  cases hstate.symm.trans hstate'
  rfl

theorem emits_started {handle : Host.StartHandle} {state : ClientState}
    (h : ClientState.decode handle.state = .ok state) : Emits (line (started handle)) state.password :=
  ⟨_, handle.state, state, input_line_encode _ _ _ _, octetsField_encode rfl, h, rfl⟩

section

variable {suite : CipherSuite} {source : RandomSource} {stdin : Text} {v : Json}

theorem exists_of_run_start {arguments : List Text} {outcome : Outcome}
    (h : run suite source ("start" :: arguments) stdin = .ok outcome) (hexit : outcome.exit = 0) :
    ∃ v octets, password stdin = .ok v ∧ Registered v octets ∧ Emits outcome.stdout octets := by
  rw [run_start_eq] at h
  rcases exists_of_answer h with ⟨written, hwritten, rfl⟩ | ⟨e, _, rfl⟩
  · rw [start_outcome, bind_eq_ok_iff] at hwritten
    obtain ⟨v, hv, hwritten⟩ := hwritten
    rw [bind_eq_ok_iff] at hwritten
    obtain ⟨handle, hhandle, hwritten⟩ := hwritten
    cases hwritten
    obtain ⟨state, hdecode, hregistered⟩ := Host.exists_of_start hhandle
    exact ⟨v, state.password, (mapError_eq_ok_iff _ _ _).mp hv, hregistered, emits_started hdecode⟩
  · cases hexit

theorem exists_password {octets : Bytes}
    (h : ((password stdin).mapError .argument >>= fun v => (Host.Password.value v).toOctets) = .ok octets)
    (hl : octets.length ≤ ClientState.maxPassword) : ∃ v, password stdin = .ok v ∧ Registered v octets := by
  rw [bind_eq_ok_iff] at h
  obtain ⟨v, hv, hoctets⟩ := h
  exact ⟨v, (mapError_eq_ok_iff _ _ _).mp hv, (toOctets_eq_ok_iff v hl).mp hoctets⟩

theorem exists_run_start {octets : Bytes} {s : Client.Started} (hp : password stdin = .ok v)
    (hv : Registered v octets) (hs : (Client.start suite source octets).outcome = .ok s) (arguments : List Text) :
    ∃ stdout, run suite source ("start" :: arguments) stdin = .ok ⟨0, stdout, []⟩ ∧ Emits stdout octets := by
  obtain ⟨handle, state, hhandle, hdecode, rfl⟩ := Host.exists_start hv hs
  exact ⟨_, run_start_of_handle hp hhandle arguments, emits_started hdecode⟩

theorem kept_iff {stdout : Text} {octets : Bytes} (hp : password stdin = .ok v) (hv : Registered v octets)
    (he : Emits stdout octets) : Kept stdin stdout ↔ ∃ t, password stdin = .ok (.string t) := by
  constructor
  · rintro ⟨t, _, ht, _⟩
    exact ⟨t, ht⟩
  · rintro ⟨t, ht⟩
    cases hp.symm.trans ht
    cases hv with
    | text hu => exact ⟨t, octets, ht, hu, he⟩

theorem Kept.eq {stdin' stdout stdout' : Text} {octets : Bytes} (h : Kept stdin stdout) (h' : Kept stdin' stdout')
    (he : Emits stdout octets) (he' : Emits stdout' octets) : password stdin = password stdin' := by
  obtain ⟨t, found, ht, hu, hfound⟩ := h
  obtain ⟨t', found', ht', hu', hfound'⟩ := h'
  obtain rfl := hfound.unique he
  obtain rfl := hfound'.unique he'
  rw [ht, ht', Text.utf8_injective hu hu']

end

/-- What a run that starts a registration registers. It succeeds with every password that stands for octets, if the
client can start with them. A run that does not succeed writes nothing. One that does has registered what its password
stands for, which are the UTF-8 octets of a text exactly if the password is a text; and for two texts, they are the same
only if the texts are. -/
theorem start_registers (suite : CipherSuite) (source : RandomSource) (arguments : List Text) (stdin : Text) :
    (∀ v octets s, password stdin = .ok v → Registered v octets →
      (Client.start suite source octets).outcome = .ok s →
        ∃ stdout, run suite source ("start" :: arguments) stdin = .ok ⟨0, stdout, []⟩ ∧ Emits stdout octets) ∧
      ∀ outcome, run suite source ("start" :: arguments) stdin = .ok outcome →
        (outcome.exit ≠ 0 → outcome.exit = 1 ∧ outcome.stdout = []) ∧
        (outcome.exit = 0 →
          (∃ v octets, password stdin = .ok v ∧ Registered v octets ∧ Emits outcome.stdout octets) ∧
          (Kept stdin outcome.stdout ↔ ∃ t, password stdin = .ok (.string t)) ∧
          ∀ suite' source' arguments' stdin' outcome' octets t t',
            run suite' source' ("start" :: arguments') stdin' = .ok outcome' → outcome'.exit = 0 →
            password stdin = .ok (.string t) → password stdin' = .ok (.string t') →
            Emits outcome.stdout octets → Emits outcome'.stdout octets → t = t') := by
  refine ⟨fun v octets s hp hv hs => exists_run_start hp hv hs arguments, fun outcome h => ⟨fun hexit => ?_, ?_⟩⟩
  · rw [run_start_eq] at h
    rcases exists_of_answer h with ⟨written, _, rfl⟩ | ⟨e, _, rfl⟩
    · exact absurd rfl hexit
    · exact ⟨rfl, rfl⟩
  · intro hexit
    obtain ⟨v, octets, hp, hv, he⟩ := exists_of_run_start h hexit
    refine ⟨⟨v, octets, hp, hv, he⟩, kept_iff hp hv he, ?_⟩
    intro suite' source' arguments' stdin' outcome' emitted t t' h' hexit' ht ht' hemitted hemitted'
    obtain ⟨v', octets', hp', hv', he'⟩ := exists_of_run_start h' hexit'
    have hkept := (kept_iff hp hv he).mpr ⟨t, ht⟩
    have hkept' := (kept_iff hp' hv' he').mpr ⟨t', ht'⟩
    have hsame := hkept.eq hkept' hemitted hemitted'
    rw [ht, ht'] at hsame
    cases hsame
    rfl

def sampleNull : Text := "\x7b\"password\": null\x7d"

def sampleEscaped : Text := "\x7b\"password\": \"\\u0070w\"\x7d"

theorem start_registers_sample :
    (∃ outcome, run Residues.sampleSuite Residues.sampleSource ["start"] sampleNull = .ok outcome ∧
      outcome.exit = 1 ∧ outcome.stdout = []) ∧
    ∃ stdout stdout',
      run Residues.sampleSuite Residues.sampleSource ["start"] (line (object [("password", "pw")])) =
        .ok ⟨0, stdout, []⟩ ∧
      run Levels.sampleSuite Residues.sampleSource ["start"] sampleEscaped = .ok ⟨0, stdout', []⟩ ∧
      Kept (line (object [("password", "pw")])) stdout ∧
      ∀ t, password sampleEscaped = .ok (.string t) → ("pw" : Text) = t := by
  have hnull : (run Residues.sampleSuite Residues.sampleSource ["start"] sampleNull).toOption.map Outcome.exit =
      some 1 := by
    decide +kernel
  have hs : (Client.start Residues.sampleSuite Residues.sampleSource (Bytes.ascii "pw")).outcome =
      .ok Residues.sampleStarted := by
    decide +kernel
  have hs' : (Client.start Levels.sampleSuite Residues.sampleSource (Bytes.ascii "pw")).outcome =
      .ok Residues.sampleStarted := by
    decide +kernel
  have hp : password (line (object [("password", "pw")])) = .ok (.string "pw") := by
    rw [password, input_line _ (by simp) (by simpa using Text.not_isSurrogate_ofString "pw")]
    rfl
  obtain ⟨v, hp', hv⟩ : ∃ v, password sampleEscaped = .ok v ∧ Registered v (Bytes.ascii "pw") :=
    exists_password (by decide +kernel) (by decide)
  refine ⟨?_, ?_⟩
  · rw [Option.map_eq_some_iff] at hnull
    obtain ⟨outcome, hrun, hexit⟩ := hnull
    rw [toOption_eq_some_iff] at hrun
    obtain ⟨_, hends⟩ := start_registers Residues.sampleSuite Residues.sampleSource [] sampleNull
    obtain ⟨hfailure, _⟩ := hends outcome hrun
    exact ⟨outcome, hrun, hfailure (by rw [hexit]; decide)⟩
  · obtain ⟨hsucceeds, hends⟩ :=
      start_registers Residues.sampleSuite Residues.sampleSource [] (line (object [("password", "pw")]))
    obtain ⟨stdout, hrun, hemits⟩ := hsucceeds _ _ _ hp (.text rfl) hs
    obtain ⟨stdout', hrun', hemits'⟩ := exists_run_start hp' hv hs' []
    obtain ⟨_, hsuccess⟩ := hends _ hrun
    obtain ⟨_, hkept, hsame⟩ := hsuccess rfl
    exact ⟨stdout, stdout', hrun, hrun', hkept.mpr ⟨"pw", hp⟩,
      fun t ht => hsame _ _ _ _ _ _ "pw" t hrun' rfl hp ht hemits hemits'⟩

def sampleCount : Text := "\x7b\"password\": 2\x7d"

def sampleItems : Text := "\x7b\"password\": [0, 0]\x7d"

/-- The number and the array are no texts, and are registered all the same, as the same two octets. -/
theorem start_registers_numbers :
    (password sampleCount).map Json.kind = .ok .int ∧ (password sampleItems).map Json.kind = .ok .array ∧
      ∃ stdout stdout',
        run Levels.sampleSuite Residues.sampleSource ["start"] sampleCount = .ok ⟨0, stdout, []⟩ ∧
        run Levels.sampleSuite Residues.sampleSource ["start"] sampleItems = .ok ⟨0, stdout', []⟩ ∧
        ¬Kept sampleCount stdout ∧ Emits stdout [0, 0] ∧ Emits stdout' [0, 0] := by
  have hcount : (password sampleCount).map Json.kind = .ok .int := by decide +kernel
  have hitems : (password sampleItems).map Json.kind = .ok .array := by decide +kernel
  obtain ⟨v, hp, hv⟩ : ∃ v, password sampleCount = .ok v ∧ Registered v [0, 0] :=
    exists_password (by decide +kernel) (by decide)
  obtain ⟨v', hp', hv'⟩ : ∃ v, password sampleItems = .ok v ∧ Registered v [0, 0] :=
    exists_password (by decide +kernel) (by decide)
  have hs : (Client.start Levels.sampleSuite Residues.sampleSource [0, 0]).outcome.toOption.isSome = true := by
    decide +kernel
  obtain ⟨s, hs⟩ := Option.isSome_iff_exists.mp hs
  rw [toOption_eq_some_iff] at hs
  obtain ⟨stdout, hrun, hemits⟩ := exists_run_start hp hv hs []
  obtain ⟨stdout', hrun', hemits'⟩ := exists_run_start hp' hv' hs []
  refine ⟨hcount, hitems, stdout, stdout', hrun, hrun', ?_, hemits, hemits'⟩
  rw [kept_iff hp hv hemits]
  rintro ⟨t, ht⟩
  rw [ht] at hcount
  cases hcount

end CommandLine

end PakeRegistration
