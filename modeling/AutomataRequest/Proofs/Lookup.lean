import AutomataRequest.Lookup

/-!
# Spellings lead back

Every spelling of a variant is read as that variant. A token or a name that has been written is
one of the spellings, so it is enough to look the written text up.
-/

namespace AutomataRequest

namespace Encoding

theorem of_spelling (encoding : Encoding) {spelling : String}
    (isSpelling : spelling ∈ encoding.spellings) : ofText spelling = .ok encoding := by
  simp only [spellings, List.mem_cons, List.not_mem_nil, or_false] at isSpelling
  rcases isSpelling with rfl | rfl
  · cases encoding <;> rfl
  · cases encoding <;> rfl

theorem of_token (encoding : Encoding) : ofText encoding.token = .ok encoding :=
  of_spelling encoding (by simp [spellings])

theorem of_name (encoding : Encoding) : ofText encoding.name = .ok encoding :=
  of_spelling encoding (by simp [spellings])

end Encoding

namespace Operation

theorem of_spelling (operation : Operation) {spelling : String}
    (isSpelling : spelling ∈ operation.spellings) : ofText spelling = .ok operation := by
  simp only [spellings, List.mem_cons, List.not_mem_nil, or_false] at isSpelling
  rcases isSpelling with rfl | rfl
  · cases operation <;> rfl
  · cases operation <;> rfl

theorem of_token (operation : Operation) : ofText operation.token = .ok operation :=
  of_spelling operation (by simp [spellings])

theorem of_name (operation : Operation) : ofText operation.name = .ok operation :=
  of_spelling operation (by simp [spellings])

end Operation

namespace Direction

theorem of_spelling (direction : Direction) {spelling : String}
    (isSpelling : spelling ∈ direction.spellings) : ofText spelling = .ok direction := by
  simp only [spellings, List.mem_cons, List.not_mem_nil, or_false] at isSpelling
  rcases isSpelling with rfl | rfl | rfl
  · cases direction <;> rfl
  · cases direction <;> rfl
  · cases direction <;> rfl

theorem of_name (direction : Direction) : ofText direction.name = .ok direction :=
  of_spelling direction (by simp [spellings])

end Direction

namespace Order

theorem of_spelling (order : Order) {spelling : String}
    (isSpelling : spelling ∈ order.spellings) : ofText spelling = .ok order := by
  simp only [spellings, List.mem_cons, List.not_mem_nil, or_false] at isSpelling
  rcases isSpelling with rfl | rfl
  · cases order <;> rfl
  · cases order <;> rfl

theorem of_token (order : Order) : ofText order.token = .ok order :=
  of_spelling order (by simp [spellings])

theorem of_name (order : Order) : ofText order.name = .ok order :=
  of_spelling order (by simp [spellings])

end Order

end AutomataRequest
