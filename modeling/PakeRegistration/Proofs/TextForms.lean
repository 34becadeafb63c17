import PakeRegistration.ClientState
import PakeRegistration.Message.Registration
import PakeRegistration.Proofs.Base64Url
import PakeRegistration.Proofs.Outcome
import PakeRegistration.Ristretto255

namespace PakeRegistration

open Outcome

namespace Base64Url

def alphabet : Text := "ABCDEFGHIJKLMNOPQRSTUVWXYZabcdefghijklmnopqrstuvwxyz0123456789-_"

theorem alphabet_getElem? (n : Nat) (h : n < 64) : alphabet[n]? = some (digit n) := by
  have htable : ∀ m : Fin 64, alphabet[m.val]? = some (digit m) := by decide +kernel
  exact htable ⟨n, h⟩

theorem lt_of_digitValue? {c : CodePoint} {n : Nat} (h : digitValue? c = some n) : c.val < 128 := by
  unfold digitValue? at h
  by_contra hc
  simp only [show ¬(65 ≤ c.val ∧ c.val ≤ 90) by omega, show ¬(97 ≤ c.val ∧ c.val ≤ 122) by omega,
    show ¬(48 ≤ c.val ∧ c.val ≤ 57) by omega, show ¬c.val = 45 by omega, show ¬c.val = 95 by omega, if_false] at h
  cases h

theorem digitValue?_eq_some_iff (c : CodePoint) (n : Nat) : digitValue? c = some n ↔ alphabet[n]? = some c := by
  constructor
  · intro h
    have htable : ∀ m : Fin 128, ∀ k ∈ digitValue? (m.castLE (by decide)),
        alphabet[k]? = some (m.castLE (by decide) : CodePoint) := by
      decide +kernel
    exact htable ⟨c.val, lt_of_digitValue? h⟩ n h
  · intro h
    have hn : n < 64 := (List.getElem?_eq_some_iff.mp h).1
    rw [alphabet_getElem? n hn] at h
    rw [← Option.some.inj h, digitValue?_digit n hn]

theorem digit_injective {m n : Nat} (hm : m < 64) (hn : n < 64) (h : digit m = digit n) : m = n := by
  have hvalue := digitValue?_digit m hm
  rw [h, digitValue?_digit n hn] at hvalue
  exact (Option.some.inj hvalue).symm

theorem map_digit_injective {numbers numbers' : List Nat} (h : ∀ n ∈ numbers, n < 64) (h' : ∀ n ∈ numbers', n < 64)
    (heq : numbers.map digit = numbers'.map digit) : numbers = numbers' := by
  have hread := mapM_digitValue?_map_digit numbers h
  rw [heq, mapM_digitValue?_map_digit numbers' h'] at hread
  exact (Option.some.inj hread).symm

theorem mapM_digitValue?_eq_some_iff (t : Text) (numbers : List Nat) :
    t.mapM digitValue? = some numbers ↔ (∀ n ∈ numbers, n < 64) ∧ t = numbers.map digit := by
  constructor
  · intro h
    induction t generalizing numbers with
    | nil =>
        obtain rfl : [] = numbers := Option.some.inj h
        exact ⟨by simp, rfl⟩
    | cons c t ih =>
        simp only [List.mapM_cons, Option.bind_eq_bind, Option.bind_eq_some_iff, Option.pure_def,
          Option.some.injEq] at h
        obtain ⟨n, hc, rest, ht, rfl⟩ := h
        obtain ⟨hrest, rfl⟩ := ih rest ht
        have hn := (digitValue?_eq_some_iff c n).mp hc
        have hlt : n < 64 := (List.getElem?_eq_some_iff.mp hn).1
        rw [alphabet_getElem? n hlt] at hn
        refine ⟨List.forall_mem_cons.mpr ⟨hlt, hrest⟩, ?_⟩
        rw [List.map_cons, Option.some.inj hn]
  · rintro ⟨h, rfl⟩
    exact mapM_digitValue?_map_digit numbers h

theorem exists_map_digit_iff (t : Text) :
    (∃ numbers : List Nat, (∀ n ∈ numbers, n < 64) ∧ t = numbers.map digit) ↔ ∀ c ∈ t, c ∈ alphabet := by
  constructor
  · rintro ⟨numbers, h, rfl⟩ c hc
    obtain ⟨n, hn, rfl⟩ := List.mem_map.mp hc
    exact List.mem_of_getElem? (alphabet_getElem? n (h n hn))
  · intro h
    have hdigit : ∀ c ∈ t, alphabet.idxOf c < 64 ∧ digit (alphabet.idxOf c) = c := by
      intro c hc
      have hlt : alphabet.idxOf c < 64 := List.idxOf_lt_length_of_mem (h c hc)
      have hget := alphabet_getElem? _ hlt
      rw [List.getElem?_idxOf (h c hc)] at hget
      exact ⟨hlt, (Option.some.inj hget).symm⟩
    refine ⟨t.map alphabet.idxOf, ?_, ?_⟩
    · intro n hn
      obtain ⟨c, hc, rfl⟩ := List.mem_map.mp hn
      exact (hdigit c hc).1
    · rw [List.map_map]
      exact (List.map_id' t).symm.trans (List.map_congr_left fun c hc => (hdigit c hc).2.symm)

theorem decode_eq_ok_iff {t : Text} {data : Bytes} :
    decode t = .ok data ↔
      ∃ numbers : List Nat, (∀ n ∈ numbers, n < 64) ∧ t = numbers.map digit ∧ numbers.length % 4 ≠ 1 ∧
        data = octets numbers := by
  constructor
  · intro h
    unfold decode at h
    split at h
    · cases h
    next numbers hread =>
      obtain ⟨hlt, rfl⟩ := (mapM_digitValue?_eq_some_iff t numbers).mp hread
      rw [ite_error_eq_ok_iff, List.length_map] at h
      exact ⟨numbers, hlt, rfl, h.1, (Except.ok.inj h.2).symm⟩
  · rintro ⟨numbers, hlt, rfl, hl, rfl⟩
    rw [decode, mapM_digitValue?_map_digit numbers hlt]
    exact if_neg (by rwa [List.length_map])

theorem exists_decode_iff (t : Text) :
    (∃ data, decode t = .ok data) ↔ (∀ c ∈ t, c ∈ alphabet) ∧ t.length % 4 ≠ 1 := by
  simp only [decode_eq_ok_iff, ← exists_map_digit_iff]
  constructor
  · rintro ⟨_, numbers, hlt, rfl, hl, _⟩
    exact ⟨⟨numbers, hlt, rfl⟩, by rwa [List.length_map]⟩
  · rintro ⟨⟨numbers, hlt, rfl⟩, hl⟩
    rw [List.length_map] at hl
    exact ⟨_, numbers, hlt, rfl, hl, rfl⟩

theorem sextets_injective {bytes bytes' : Bytes} (h : sextets bytes = sextets bytes') : bytes = bytes' := by
  rw [← octets_sextets bytes, h, octets_sextets]

/-- How many of the lowest bits of the last digit are in no octet. -/
def spareBits (length : Nat) : Nat :=
  if length % 4 = 2 then 4 else if length % 4 = 3 then 2 else 0

def cleared (length number : Nat) : Nat :=
  number / Nat.pow 2 (spareBits length) * Nat.pow 2 (spareBits length)

theorem sextets_octets_four {a b c d : Nat} (ha : a < 64) (hb : b < 64) (hc : c < 64) (hd : d < 64)
    (rest : List Nat) : sextets (octets (a :: b :: c :: d :: rest)) = a :: b :: c :: d :: sextets (octets rest) := by
  have hx : (a * 4 + b / 16) % 256 = a * 4 + b / 16 := by omega
  have hy : (b % 16 * 16 + c / 4) % 256 = b % 16 * 16 + c / 4 := by omega
  have hz : (c % 4 * 64 + d) % 256 = c % 4 * 64 + d := by omega
  simp only [octets, sextets, UInt8.toNat_ofNat', Nat.reducePow, hx, hy, hz, List.cons.injEq, and_true]
  omega

theorem sextets_octets_three {a b c : Nat} (ha : a < 64) (hb : b < 64) (hc : c < 64) :
    sextets (octets [a, b, c]) = [a, b, c / 4 * 4] := by
  have hx : (a * 4 + b / 16) % 256 = a * 4 + b / 16 := by omega
  have hy : (b % 16 * 16 + c / 4) % 256 = b % 16 * 16 + c / 4 := by omega
  simp only [octets, sextets, UInt8.toNat_ofNat', Nat.reducePow, hx, hy, List.cons.injEq, and_true]
  omega

theorem sextets_octets_two {a b : Nat} (ha : a < 64) (hb : b < 64) :
    sextets (octets [a, b]) = [a, b / 16 * 16] := by
  have hx : (a * 4 + b / 16) % 256 = a * 4 + b / 16 := by omega
  simp only [octets, sextets, UInt8.toNat_ofNat', Nat.reducePow, hx, List.cons.injEq, and_true]
  omega

theorem cleared_add_four (length number : Nat) : cleared (length + 4) number = cleared length number := by
  rw [cleared, cleared, spareBits, Nat.add_mod_right, spareBits]

/-- Octets keep everything but the spare bits of the last number. -/
theorem sextets_octets_concat (front : List Nat) (last : Nat) (h : ∀ n ∈ front, n < 64) (hlast : last < 64)
    (hl : (front.length + 1) % 4 ≠ 1) :
    sextets (octets (front ++ [last])) = front ++ [cleared (front.length + 1) last] := by
  induction front using octets.induct with
  | case1 a b c d rest ih =>
      simp only [List.forall_mem_cons] at h
      obtain ⟨ha, hb, hc, hd, hrest⟩ := h
      have hlength : (a :: b :: c :: d :: rest).length + 1 = rest.length + 1 + 4 := rfl
      rw [hlength, Nat.add_mod_right] at hl
      rw [hlength, cleared_add_four]
      simp only [List.cons_append, sextets_octets_four ha hb hc hd, ih hrest hl]
  | case2 a b c =>
      simp only [List.forall_mem_cons] at h
      obtain ⟨ha, hb, hc, -⟩ := h
      have hcleared : cleared 4 last = last := by simp [cleared, spareBits]
      exact (sextets_octets_four ha hb hc hlast []).trans (congrArg ([a, b, c, ·]) hcleared.symm)
  | case3 a b =>
      simp only [List.forall_mem_cons] at h
      obtain ⟨ha, hb, -⟩ := h
      exact sextets_octets_three ha hb hlast
  | case4 front hfour hthree htwo =>
      rcases front with _ | ⟨a, _ | ⟨b, _ | ⟨c, _ | ⟨d, rest⟩⟩⟩⟩
      · exact absurd rfl hl
      · exact sextets_octets_two (h a (by simp)) hlast
      · exact absurd rfl (htwo a b)
      · exact absurd rfl (hthree a b c)
      · exact absurd rfl (hfour a b c d rest)

theorem decode_cases {t : Text} {data : Bytes} (h : decode t = .ok data) :
    t = [] ∧ data = [] ∨
      ∃ front last, (∀ n ∈ front, n < 64) ∧ last < 64 ∧ t = front.map digit ++ [digit last] ∧
        sextets data = front ++ [cleared t.length last] := by
  obtain ⟨numbers, hlt, rfl, hl, rfl⟩ := decode_eq_ok_iff.mp h
  rcases List.eq_nil_or_concat numbers with rfl | ⟨front, last, rfl⟩
  · exact Or.inl ⟨rfl, rfl⟩
  · simp only [List.concat_eq_append, List.mem_append, List.mem_singleton] at hlt hl ⊢
    have hfront : ∀ n ∈ front, n < 64 := fun n hn => hlt n (Or.inl hn)
    have hlast : last < 64 := hlt last (Or.inr rfl)
    rw [List.length_append, List.length_singleton] at hl
    refine Or.inr ⟨front, last, hfront, hlast, by rw [List.map_append]; rfl, ?_⟩
    rw [List.length_map, List.length_append, List.length_singleton]
    exact sextets_octets_concat front last hfront hlast hl

theorem length_of_decode {t : Text} {data : Bytes} (h : decode t = .ok data) : data.length = 3 * t.length / 4 := by
  obtain ⟨-, hl⟩ := (exists_decode_iff t).mp ⟨data, h⟩
  rcases decode_cases h with ⟨rfl, rfl⟩ | ⟨front, last, _, _, rfl, hs⟩
  · rfl
  · have hsextets := sextets_length data
    rw [hs, List.length_append, List.length_singleton] at hsextets
    rw [List.length_append, List.length_map, List.length_singleton] at hl ⊢
    omega

def lastNumber (t : Text) : Nat :=
  (t.getLast?.bind digitValue?).getD 0

theorem lastNumber_concat (front : Text) {last : Nat} (h : last < 64) : lastNumber (front ++ [digit last]) = last := by
  rw [lastNumber, List.getLast?_concat, Option.bind_some, digitValue?_digit last h]
  rfl

theorem cleared_eq_self_iff (length number : Nat) :
    cleared length number = number ↔ number % Nat.pow 2 (spareBits length) = 0 := by
  have hmod := Nat.div_add_mod' number (Nat.pow 2 (spareBits length))
  rw [cleared]
  omega

theorem cleared_eq_cleared_iff (length m n : Nat) :
    cleared length m = cleared length n ↔
      m / Nat.pow 2 (spareBits length) = n / Nat.pow 2 (spareBits length) :=
  Nat.mul_left_inj (Nat.ne_of_gt (Nat.two_pow_pos (spareBits length)))

theorem encode_eq_iff_of_decode {t : Text} {data : Bytes} (h : decode t = .ok data) :
    encode data = t ↔ lastNumber t % Nat.pow 2 (spareBits t.length) = 0 := by
  rcases decode_cases h with ⟨rfl, rfl⟩ | ⟨front, last, _, hlast, ht, hs⟩
  · exact iff_of_true rfl rfl
  · have hcleared : cleared t.length last < 64 := Nat.lt_of_le_of_lt (Nat.div_mul_le_self _ _) hlast
    have hnumber : lastNumber t = last := by rw [ht, lastNumber_concat _ hlast]
    have hencode : encode data = front.map digit ++ [digit (cleared t.length last)] := by
      rw [encode, hs, List.map_append]
      rfl
    rw [hnumber, ← cleared_eq_self_iff, hencode]
    constructor
    · intro he
      have hdigit := List.append_cancel_left (he.trans ht)
      exact digit_injective hcleared hlast (List.singleton_inj.mp hdigit)
    · intro he
      rw [he, ← ht]

theorem eq_iff_of_decode {t t' : Text} {data data' : Bytes} (h : decode t = .ok data) (h' : decode t' = .ok data') :
    data = data' ↔ t.length = t'.length ∧ t.dropLast = t'.dropLast ∧
      lastNumber t / Nat.pow 2 (spareBits t.length) = lastNumber t' / Nat.pow 2 (spareBits t.length) := by
  rcases decode_cases h with ⟨rfl, rfl⟩ | ⟨front, last, hfront, hlast, ht, hs⟩ <;>
    rcases decode_cases h' with ⟨rfl, rfl⟩ | ⟨front', last', hfront', hlast', ht', hs'⟩
  · simp
  · refine iff_of_false ?_ (by simp [ht'])
    rintro rfl
    simp [sextets] at hs'
  · refine iff_of_false ?_ (by simp [ht])
    rintro rfl
    simp [sextets] at hs
  · have hnumber : lastNumber t = last := by rw [ht, lastNumber_concat _ hlast]
    have hnumber' : lastNumber t' = last' := by rw [ht', lastNumber_concat _ hlast']
    have hdrop : t.dropLast = front.map digit := by rw [ht, List.dropLast_concat]
    have hdrop' : t'.dropLast = front'.map digit := by rw [ht', List.dropLast_concat]
    rw [hnumber, hnumber', hdrop, hdrop', ← cleared_eq_cleared_iff]
    constructor
    · rintro rfl
      obtain ⟨rfl, hlasts⟩ := List.append_inj' (hs.symm.trans hs') rfl
      have hlength : t.length = t'.length := by simp [ht, ht']
      rw [← hlength] at hlasts
      exact ⟨hlength, rfl, List.singleton_inj.mp hlasts⟩
    · rintro ⟨hlength, hfronts, hlasts⟩
      apply sextets_injective
      rw [hs, hs', map_digit_injective hfront hfront' hfronts, hlasts, hlength]

theorem mem_alphabet_of_encode (bytes : Bytes) : ∀ c ∈ encode bytes, c ∈ alphabet :=
  ((exists_decode_iff (encode bytes)).mp ⟨bytes, decode_encode bytes⟩).1

end Base64Url

theorem DecodeError.decode_mem_ancestors (e : DecodeError) :
    Category.decode ∈ (Error.decode e).category :: (Error.decode e).category.ancestors := by
  cases e <;> exact List.elem_iff.mp rfl

namespace Wire

/-- Values of this type are read from those texts whose octets they are decoded from; every other value is refused for
a fault of decoding, whether it is no text, no text of digits, or octets that are not decoded. -/
structure ReadsText (α : Type) [Wire α] (G : PrimeGroup) : Prop where
  ofText_eq_ok_iff (v : Json) (a : α) :
    ofText G v = .ok a ↔ ∃ t data, v = .string t ∧ Base64Url.decode t = .ok data ∧ decode G data = .ok a
  refused (v : Json)
    (h : ¬∃ (t : Text) (data : Bytes) (a : α), v = .string t ∧ Base64Url.decode t = .ok data ∧ decode G data = .ok a) :
    ∃ e, (ofText G v : Except DecodeError α) = .error e ∧
      Category.decode ∈ (Error.decode e).category :: (Error.decode e).category.ancestors

theorem readsText (α : Type) [Wire α] (G : PrimeGroup) : ReadsText α G := by
  have hok (v : Json) (a : α) :
      ofText G v = .ok a ↔ ∃ t data, v = .string t ∧ Base64Url.decode t = .ok data ∧ decode G data = .ok a := by
    simp only [ofText, bind_eq_ok_iff, mapError_eq_ok_iff]
    constructor
    · rintro ⟨data, hd, ha⟩
      cases v with
      | string t => exact ⟨t, data, rfl, hd, ha⟩
      | null | bool | int | decimal | array | object => cases hd
    · rintro ⟨t, data, rfl, hd, ha⟩
      exact ⟨data, hd, ha⟩
  refine ⟨hok, fun v h => ?_⟩
  cases hv : (ofText G v : Except DecodeError α) with
  | error e => exact ⟨e, rfl, e.decode_mem_ancestors⟩
  | ok a =>
      obtain ⟨t, data, ht, hd, ha⟩ := (hok v a).mp hv
      exact absurd ⟨t, data, a, ht, hd, ha⟩ h

end Wire

namespace Base64Url

/-- Octets survive as text; texts are read if they hold nothing but digits, in a number that octets can have, and lose
the spare bits of the last digit alone; and messages and states are read from such texts or refused. -/
theorem decode_strict_lossless :
    (∀ c n, digitValue? c = some n ↔ alphabet[n]? = some c) ∧
      (∀ data : Bytes, (∀ c ∈ encode data, c ∈ alphabet) ∧ (encode data).length = (4 * data.length + 2) / 3 ∧
        decode (encode data) = .ok data) ∧
      (∀ t, (∃ data, decode t = .ok data) ↔ (∀ c ∈ t, c ∈ alphabet) ∧ t.length % 4 ≠ 1) ∧
      (∀ t data, decode t = .ok data → data.length = 3 * t.length / 4 ∧
        (encode data = t ↔ lastNumber t % Nat.pow 2 (spareBits t.length) = 0) ∧
        ∀ t' data', decode t' = .ok data' → (data = data' ↔ t.length = t'.length ∧ t.dropLast = t'.dropLast ∧
          lastNumber t / Nat.pow 2 (spareBits t.length) = lastNumber t' / Nat.pow 2 (spareBits t.length))) ∧
      ∀ G, Wire.ReadsText RegistrationRequest G ∧ Wire.ReadsText RegistrationResponse G ∧
        Wire.ReadsText RegistrationUpload G ∧ Wire.ReadsText ClientState G := by
  refine ⟨digitValue?_eq_some_iff, fun data => ?_, exists_decode_iff, fun t data h => ?_, fun G => ?_⟩
  · exact ⟨mem_alphabet_of_encode data, encode_length data, decode_encode data⟩
  · exact ⟨length_of_decode h, encode_eq_iff_of_decode h, fun _ _ h' => eq_iff_of_decode h h'⟩
  · exact ⟨Wire.readsText _ G, Wire.readsText _ G, Wire.readsText _ G, Wire.readsText _ G⟩

theorem decode_strict_lossless_spare :
    decode "AA" = .ok [0] ∧ encode [0] = "AA" ∧ decode "AB" = .ok [0] ∧ encode [0] ≠ "AB" ∧
      (lastNumber "AA" / Nat.pow 2 (spareBits 2) = lastNumber "AB" / Nat.pow 2 (spareBits 2)) ∧
      (¬∃ data, decode "AA\n" = .ok data) ∧
      Wire.ofText Ristretto255.group (.string (encode Ristretto255.generatorOctets)) =
        .ok (⟨Ristretto255.generatorOctets⟩ : RegistrationRequest) ∧
      ∃ e, (Wire.ofText Ristretto255.group (.string "AA==") : Except DecodeError ClientState) = .error e ∧
        Category.decode ∈ (Error.decode e).category :: (Error.decode e).category.ancestors := by
  have hplain : decode "AA" = .ok [0] := by decide +kernel
  have hspare : decode "AB" = .ok [0] := by decide +kernel
  have hgenerator : Wire.decode Ristretto255.group Ristretto255.generatorOctets =
      .ok (⟨Ristretto255.generatorOctets⟩ : RegistrationRequest) := by
    decide +kernel
  have hbreak : 10 ∈ ("AA\n" : Text) ∧ 10 ∉ alphabet := by decide +kernel
  have hpadding : 61 ∈ ("AA==" : Text) ∧ 61 ∉ alphabet := by decide +kernel
  obtain ⟨_, hencode, haccepted, hdecode, hmessages⟩ := decode_strict_lossless
  obtain ⟨hrequest, _, _, hstate⟩ := hmessages Ristretto255.group
  obtain ⟨_, hplain', hsame⟩ := hdecode _ _ hplain
  obtain ⟨_, hspare', _⟩ := hdecode _ _ hspare
  obtain ⟨_, _, hlasts⟩ := (hsame _ _ hspare).mp rfl
  have hrefused {t : Text} {c : CodePoint} (h : c ∈ t ∧ c ∉ alphabet) : ¬∃ data, decode t = .ok data :=
    fun hd => h.2 (((haccepted t).mp hd).1 c h.1)
  refine ⟨hplain, hplain'.mpr (by decide +kernel), hspare, fun he => ?_, hlasts, hrefused hbreak, ?_,
    hstate.refused _ ?_⟩
  · exact absurd (hspare'.mp he) (by decide +kernel)
  · exact (hrequest.ofText_eq_ok_iff _ _).mpr ⟨_, _, rfl, (hencode _).2.2, hgenerator⟩
  · rintro ⟨t, data, _, ht, hd, _⟩
    injection ht with ht
    subst ht
    exact hrefused hpadding ⟨data, hd⟩

end Base64Url

end PakeRegistration
