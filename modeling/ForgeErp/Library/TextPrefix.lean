import Mathlib.Data.String.Basic

/-!
This module contains the prefix of a text up to a byte. There is one only where no character is cut
in two.
-/

namespace String

/--
`&s[..i]`, which panics unless a character starts at the byte `i` or the text ends there.
-/
def prefixBytes (s : String) (i : Nat) : Option String :=
  if h : (⟨i⟩ : String.Pos.Raw).IsValid s then some (s.sliceTo ⟨⟨i⟩, h⟩).copy else none

variable {s t : String} {i : Nat}

theorem isValid_iff_exists_head
    : (⟨i⟩ : String.Pos.Raw).IsValid s ↔ ∃ head rest, s = head ++ rest ∧ head.utf8ByteSize = i := by
  rw [String.Pos.Raw.isValid_iff_exists_append]
  constructor
  . rintro ⟨head, rest, happend, hpos⟩
    exact ⟨head, rest, happend, (congrArg String.Pos.Raw.byteIdx hpos).symm⟩
  . rintro ⟨head, rest, happend, hsize⟩
    exact ⟨head, rest, happend, String.Pos.Raw.ext hsize.symm⟩

theorem prefixBytes_eq_some (h : prefixBytes s i = some t)
    : (⟨i⟩ : String.Pos.Raw).IsValid s ∧ t.utf8ByteSize = i ∧ ∃ rest, s = t ++ rest := by
  unfold prefixBytes at h
  split at h
  . next hvalid =>
    cases h
    have hsplits := String.Pos.splits ⟨⟨i⟩, hvalid⟩
    refine ⟨hvalid, ?_, _, hsplits.eq_append⟩
    exact (congrArg String.Pos.Raw.byteIdx hsplits.offset_eq_rawEndPos).symm
  . cases h

theorem prefixBytes_of_isValid (h : (⟨i⟩ : String.Pos.Raw).IsValid s)
    : ∃ t, prefixBytes s i = some t :=
  ⟨_, dif_pos h⟩

theorem prefixBytes_eq_none (h : ¬ (⟨i⟩ : String.Pos.Raw).IsValid s) : prefixBytes s i = none :=
  dif_neg h

theorem utf8Len_replicate (n : Nat) (c : Char) : utf8Len (List.replicate n c) = n * c.utf8Size := by
  induction n with
  | zero => rw [List.replicate_zero, utf8Len_nil, Nat.zero_mul]
  | succ n ih => rw [List.replicate_succ, utf8Len_cons, ih, Nat.succ_mul]

-- A byte behind the first one of a character and before the first one of the next.
theorem not_isValid_inside {c : Char} {before after : String} (hlt : before.utf8ByteSize < i)
    (hinside : i < before.utf8ByteSize + c.utf8Size)
    : ¬ (⟨i⟩ : String.Pos.Raw).IsValid (before ++ (String.singleton c ++ after)) := by
  rw [isValid_iff_exists_head]
  rintro ⟨head, rest, happend, hsize⟩
  rw [← utf8Len_toList] at hlt hinside hsize
  have hlist := congrArg String.toList happend
  rw [String.toList_append, String.toList_append, String.toList_append, String.toList_singleton,
    List.singleton_append, List.append_eq_append_iff] at hlist
  rcases hlist with ⟨more, hhead, hmore⟩ | ⟨more, hbefore, _⟩
  . cases more with
    | nil =>
      rw [hhead, List.append_nil] at hsize
      omega
    | cons c' more =>
      rw [List.cons_append, List.cons.injEq] at hmore
      rw [hhead, utf8Len_append, utf8Len_cons, ← hmore.1] at hsize
      omega
  . rw [hbefore, utf8Len_append] at hlt
    omega

end String
