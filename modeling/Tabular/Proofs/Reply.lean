import Mathlib
import Tabular.Reply
import Tabular.Proofs.Delimited.Bytes
import Tabular.Proofs.Json.Intact
import Tabular.Proofs.Json.Stable

/-!
# Replies in prose

What a reply says is looked for between its first opening brace and its last closing one.

* `objectIn?_eq_some`: what is found, in the terms of the text around it.
* `objectIn?_surrounded`: what is found when there is more in front and behind.
* `Reply.read_surrounded`: **a reply is read the same with any prose in front that has no opening
  brace and any prose behind that has no closing one; a closing brace behind it is always taken for
  its end, and it is lost.**
-/

namespace Tabular

open Json

variable {cs o p j s : List Char}

/-! ## The object of a text -/

/-- A text that runs from an opening brace to a closing one. -/
def Braced (o : List Char) : Prop := ∃ m, o = '\x7b' :: (m ++ ['\x7d'])

theorem dropWhile_ne_append {a b : List Char} {c : Char} (h : c ∉ a) :
    (a ++ c :: b).dropWhile (· != c) = c :: b := by
  rw [List.dropWhile_append_of_pos, List.dropWhile_cons_of_neg (by simp)]
  intro x hx
  exact bne_iff_ne.2 fun hxc => h (hxc ▸ hx)

/-- What dropping up to a character has dropped. -/
theorem dropWhile_ne_cases (cs : List Char) (c : Char) :
    cs.dropWhile (· != c) = [] ∨
      ∃ a b, cs = a ++ c :: b ∧ c ∉ a ∧ cs.dropWhile (· != c) = c :: b := by
  by_cases h : c ∈ cs
  · obtain ⟨a, b, rfl, ha⟩ := List.eq_append_cons_of_mem h
    exact .inr ⟨a, b, rfl, ha, dropWhile_ne_append ha⟩
  · exact .inl (List.dropWhile_eq_nil_iff.2 fun x hx => bne_iff_ne.2 fun hxc => h (hxc ▸ hx))

/-- **What is found in a text**: the part from the first opening brace to the last closing one. -/
theorem objectIn?_eq_some :
    objectIn? cs = some o ↔
      ∃ a b, cs = a ++ o ++ b ∧ '\x7b' ∉ a ∧ '\x7d' ∉ b ∧ Braced o := by
  constructor
  · intro h
    rcases dropWhile_ne_cases cs '\x7b' with hfirst | ⟨a, t, rfl, ha, hfirst⟩
    · simp [objectIn?, hfirst] at h
    rcases dropWhile_ne_cases ('\x7b' :: t).reverse '\x7d' with hlast | ⟨b, r, hsplit, hb, hlast⟩
    · simp only [objectIn?, hfirst, hlast, List.reverse_nil, List.isEmpty_nil, if_true] at h
      cases h
    have ho : r.reverse ++ ['\x7d'] = o := by
      simp only [objectIn?, hfirst, hlast] at h
      simpa using h
    have hends : '\x7b' :: t = r.reverse ++ '\x7d' :: b.reverse := by
      rw [← List.reverse_reverse ('\x7b' :: t), hsplit, List.reverse_append, List.reverse_cons,
        List.append_assoc, List.singleton_append]
    refine ⟨a, b.reverse, ?_, ha, by rwa [List.mem_reverse], ?_⟩
    · rw [hends, ← ho, List.append_assoc, List.append_assoc, List.singleton_append]
    · -- the closing brace is not the opening one
      cases hr : r.reverse with
      | nil =>
        rw [hr, List.nil_append] at hends
        cases hends
      | cons c m =>
        rw [hr, List.cons_append] at hends
        obtain ⟨rfl, -⟩ := List.cons.inj hends
        exact ⟨m, by rw [← ho, hr, List.cons_append]⟩
  · rintro ⟨a, b, rfl, ha, hb, m, rfl⟩
    have hfirst : (a ++ '\x7b' :: (m ++ ['\x7d']) ++ b).dropWhile (· != '\x7b') =
        '\x7b' :: (m ++ ['\x7d']) ++ b := by
      rw [List.append_assoc, List.cons_append, dropWhile_ne_append ha]
    have hlast : ('\x7b' :: (m ++ ['\x7d']) ++ b).reverse.dropWhile (· != '\x7d') =
        ('\x7b' :: (m ++ ['\x7d'])).reverse := by
      have hreverse : ('\x7b' :: (m ++ ['\x7d'])).reverse = '\x7d' :: ('\x7b' :: m).reverse := by
        simp
      rw [List.reverse_append, hreverse, dropWhile_ne_append (by rwa [List.mem_reverse])]
    simp only [objectIn?, hfirst, hlast, List.reverse_reverse]
    rfl

/-- What is found behind a prose without an opening brace: as much more as there is up to the last
closing one. -/
theorem objectIn?_surrounded (hp : '\x7b' ∉ p) (h : objectIn? j = some o) :
    if '\x7d' ∈ s then ∃ more, objectIn? (p ++ j ++ s) = some (o ++ more) ∧ '\x7d' ∈ more
    else objectIn? (p ++ j ++ s) = some o := by
  obtain ⟨a, b, rfl, ha, hb, hbraced⟩ := objectIn?_eq_some.1 h
  have hpa : '\x7b' ∉ p ++ a := by
    rw [List.mem_append, not_or]
    exact ⟨hp, ha⟩
  split
  · rename_i hs
    -- the last closing brace is in what stands behind
    obtain ⟨s₂, s₁, hs₂, hs₁⟩ : ∃ s₂ s₁, '\x7d' ∉ s₂ ∧ s = s₁ ++ '\x7d' :: s₂ := by
      obtain ⟨u, v, huv, hu⟩ := List.eq_append_cons_of_mem (List.mem_reverse.2 hs)
      refine ⟨u.reverse, v.reverse, by rwa [List.mem_reverse], ?_⟩
      rw [← List.reverse_reverse s, huv, List.reverse_append, List.reverse_cons,
        List.append_assoc, List.singleton_append]
    refine ⟨b ++ s₁ ++ ['\x7d'], objectIn?_eq_some.2 ⟨p ++ a, s₂, ?_, hpa, hs₂, ?_⟩, by simp⟩
    · rw [hs₁]
      simp
    · obtain ⟨m, rfl⟩ := hbraced
      exact ⟨m ++ ['\x7d'] ++ b ++ s₁, by simp⟩
  · rename_i hs
    refine objectIn?_eq_some.2 ⟨p ++ a, b ++ s, by simp, hpa, ?_, hbraced⟩
    rw [List.mem_append, not_or]
    exact ⟨hb, hs⟩

/-! ## Its bytes -/

theorem toList_loop (bs : ByteArray) (i : Nat) (r : List UInt8) :
    ByteArray.toList.loop bs i r = r.reverse ++ bs.data.toList.drop i := by
  fun_induction ByteArray.toList.loop bs i r with
  | case1 i r hi ih =>
    have hlength : i < bs.data.toList.length := by simpa using hi
    rw [ih, List.drop_eq_getElem_cons hlength]
    simp [ByteArray.get!, hi]
  | case2 i r hi =>
    rw [List.drop_eq_nil_of_le (by simpa using Nat.le_of_not_lt hi)]
    simp

/-- The bytes of a text, one character after the other. -/
theorem utf8_ofList (cs : List Char) :
    (String.ofList cs).toUTF8.toList = cs.flatMap String.utf8EncodeChar := by
  rw [← Delimited.bytes_ofList, ByteArray.toList, toList_loop]
  rfl

/-! ## What it is read as -/

theorem Reply.record_careful : Reply.record.Careful := by
  intro s name d t h
  simp only [Reply.record] at h
  split at h <;> obtain ⟨slot, hfill, -⟩ := bind_eq_ok.1 h
  · exact (Decoder.careful_variant _).fill _ d slot hfill
  · exact Decoder.careful_string.fill _ d slot hfill
  · exact (Decoder.careful_value _).nullable.fill _ d slot hfill

/-- What is read is the object of the text, and all of it. -/
theorem Reply.read_eq_ok {raw : String} {reply : Reply} :
    Reply.read raw = .ok reply ↔
      ∃ o, objectIn? raw.toList = some o ∧
        Reply.record.decode (Document.ofBytes (String.ofList o).toUTF8.toList) = .ok reply := by
  unfold Reply.read
  split
  · simp [*]
  · rename_i o ho
    simp only [ho, Option.some.injEq, exists_eq_left']
    cases Reply.record.decode (Document.ofBytes (String.ofList o).toUTF8.toList) with
    | ok => simp only [Except.ok.injEq]
    | error => simp only [reduceCtorEq]

/-- An object with more behind it than blanks cannot be read. -/
theorem Reply.decode_append {more : List Char} {reply : Reply}
    (h : Reply.record.decode (Document.ofBytes (String.ofList o).toUTF8.toList) = .ok reply)
    (hmore : '\x7d' ∈ more) :
    Reply.record.decode (Document.ofBytes (String.ofList (o ++ more)).toUTF8.toList) =
      .error .malformed := by
  -- the object is whole, so the reader stops at its end and finds the brace behind it
  obtain ⟨hintact, hnumber⟩ := Record.intact_of_decode Reply.record_careful h
  have hbyte : ∃ b ∈ more.flatMap String.utf8EncodeChar, isSpace b = false :=
    ⟨0x7d, List.mem_flatMap.2 ⟨_, hmore, List.mem_singleton_self _⟩, rfl⟩
  rw [utf8_ofList] at hintact hnumber
  rw [utf8_ofList, List.flatMap_append, Document.ofBytes_append hintact hnumber hbyte]
  rfl

/-- **A reply is read the same whatever stands around it**, as long as no brace opens in front of
it and none closes behind it. A brace that closes behind it is taken for its end, and the reply is
lost. -/
theorem Reply.read_surrounded {p j s : String} {reply : Reply} (hp : '\x7b' ∉ p.toList)
    (hj : Reply.read j = .ok reply) :
    if '\x7d' ∈ s.toList then ∃ text, Reply.read (p ++ j ++ s) = .error (.unreadable text)
    else Reply.read (p ++ j ++ s) = .ok reply := by
  obtain ⟨o, ho, hdecode⟩ := Reply.read_eq_ok.1 hj
  have hobject := objectIn?_surrounded (s := s.toList) hp ho
  rw [← String.toList_append, ← String.toList_append] at hobject
  split at hobject
  · rename_i hs
    obtain ⟨more, hfound, hmore⟩ := hobject
    refine if_pos hs ▸ ⟨.ofList (o ++ more), ?_⟩
    unfold Reply.read
    simp only [hfound, Reply.decode_append hdecode hmore]
  · rename_i hs
    rw [if_neg hs]
    exact Reply.read_eq_ok.2 ⟨o, hobject, hdecode⟩

/-- A computation gives a result when a part of its result is known. -/
theorem exists_of_toOption_map {ε α β : Type} {x : Except ε α} {f : α → β} {b : β}
    (h : x.toOption.map f = some b) : ∃ a, x = .ok a ∧ f a = b := by
  obtain ⟨a, ha, hb⟩ := Option.map_eq_some_iff.1 h
  cases x with
  | error e => cases ha
  | ok a' => exact ⟨a, congrArg Except.ok (Option.some.inj ha), hb⟩

/-- A reply with braces in its text and an object in it. -/
def nestedReply : String :=
  "\x7b\"intent\": \"CHART\", \"textResponse\": \"by \x7bm\x7d\", " ++
    "\"chartConfig\": \x7b\"n\": 1\x7d\x7d"

/-- It is read out of a fence, and lost before a remark with a closing brace. -/
theorem Reply.read_surrounded_fence :
    ∃ reply, '\x7b' ∉ "Here:\n```json\n".toList ∧ Reply.read nestedReply = .ok reply ∧
      reply.text = "by \x7bm\x7d" ∧
      Reply.read ("Here:\n```json\n" ++ nestedReply ++ "\n```") = .ok reply ∧
      ∃ text, Reply.read ("Here:\n```json\n" ++ nestedReply ++ "\n``` :\x7d") =
        .error (.unreadable text) := by
  have hp : '\x7b' ∉ "Here:\n```json\n".toList := by decide
  obtain ⟨reply, hread, htext⟩ : ∃ reply, Reply.read nestedReply = .ok reply ∧
      reply.text = "by \x7bm\x7d" := exists_of_toOption_map (by decide +kernel)
  have hfence := Reply.read_surrounded (s := "\n```") hp hread
  have hremark := Reply.read_surrounded (s := "\n``` :\x7d") hp hread
  rw [if_neg (by decide)] at hfence
  rw [if_pos (by decide)] at hremark
  exact ⟨reply, hp, hread, htext, hfence, hremark⟩

/-- A reply without a chart. -/
def plainReply : String := "\x7b\"intent\": \"CHART\", \"textResponse\": \"hi\"\x7d"

/-- **A reply is lost when a brace closes behind it.** -/
theorem Reply.read_plainReply_lost :
    ¬ ∀ (p j s : String) (reply : Reply), '\x7b' ∉ p.toList → objectIn? j.toList = some j.toList →
      Reply.read j = .ok reply → Reply.read (p ++ j ++ s) = .ok reply := by
  intro h
  obtain ⟨reply, hread, -⟩ : ∃ reply, Reply.read plainReply = .ok reply ∧ reply.text = "hi" :=
    exists_of_toOption_map (by decide +kernel)
  have hobject : objectIn? plainReply.toList = some plainReply.toList := by decide +kernel
  have hlost : (Reply.read ("" ++ plainReply ++ " \x7d")).toOption.isSome = false := by
    decide +kernel
  rw [h "" plainReply " \x7d" reply (by decide) hobject hread] at hlost
  cases hlost

end Tabular
