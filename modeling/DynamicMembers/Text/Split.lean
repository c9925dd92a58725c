/-!
# Splitting at a separator — the pieces between the occurrences of a character

There is always one piece more than there are separators, and joining the pieces gives the text back.
-/
namespace DynamicMembers
namespace Text

/-- Puts a character in front of the first piece. -/
def onHead (c : Char) : List (List Char) → List (List Char)
  | [] => [[c]]
  | p :: ps => (c :: p) :: ps

def split (sep : Char) : List Char → List (List Char)
  | [] => [[]]
  | c :: cs => if c = sep then [] :: split sep cs else onHead c (split sep cs)

theorem split_ne_nil (sep : Char) : ∀ cs : List Char, split sep cs ≠ []
  | [] => by simp [split]
  | c :: cs => by
    by_cases h : c = sep
    · simp [split, h]
    · cases hs : split sep cs <;> simp [split, h, hs, onHead]

def join (sep : Char) : List (List Char) → List Char
  | [] => []
  | [p] => p
  | p :: ps => p ++ sep :: join sep ps

theorem join_cons (sep : Char) (p : List Char) : ∀ {ps : List (List Char)}, ps ≠ [] →
    join sep (p :: ps) = p ++ sep :: join sep ps
  | [], h => absurd rfl h
  | _ :: _, _ => rfl

theorem join_append (sep : Char) {qs : List (List Char)} (hq : qs ≠ []) : ∀ {ps : List (List Char)}, ps ≠ [] →
    join sep (ps ++ qs) = join sep ps ++ sep :: join sep qs
  | [], hp => absurd rfl hp
  | [p], _ => join_cons sep p hq
  | p :: q :: ps, _ => by
    have hne := List.cons_ne_nil q ps
    have ih := join_append sep hq hne
    rw [List.cons_append, join_cons sep p (List.append_ne_nil_of_left_ne_nil hne qs), ih, join_cons sep p hne,
      List.append_assoc, List.cons_append]

theorem join_split (sep : Char) : ∀ cs : List Char, join sep (split sep cs) = cs
  | [] => rfl
  | c :: cs => by
    have ih := join_split sep cs
    have hn := split_ne_nil sep cs
    by_cases h : c = sep
    · cases hs : split sep cs with
      | nil => exact absurd hs hn
      | cons p ps => simp [split, h, hs, join] at ih ⊢; exact ih
    · cases hs : split sep cs with
      | nil => exact absurd hs hn
      | cons p ps =>
        cases ps with
        | nil => simp [split, h, hs, onHead, join] at ih ⊢; exact ih
        | cons q qs => simp [split, h, hs, onHead, join] at ih ⊢; exact ih

theorem mem_join {sep c : Char} : ∀ {ps : List (List Char)}, c ∈ join sep ps → c = sep ∨ ∃ p ∈ ps, c ∈ p
  | [p], h => Or.inr ⟨p, List.mem_cons_self, h⟩
  | p :: q :: ps, h => by
    rw [join] at h
    · rcases List.mem_append.1 h with h | h
      · exact Or.inr ⟨p, List.mem_cons_self, h⟩
      · rcases List.mem_cons.1 h with h | h
        · exact Or.inl h
        · rcases mem_join h with h | ⟨r, hr, h⟩
          · exact Or.inl h
          · exact Or.inr ⟨r, List.mem_cons_of_mem p hr, h⟩
    · exact List.cons_ne_nil q ps

end Text
end DynamicMembers
