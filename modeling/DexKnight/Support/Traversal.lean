import Mathlib.Data.List.Forall2

/-! Lists that are read element by element, by a reader that can fail: the whole list is
read exactly when every element is, and the results stand in the order of the elements. -/
namespace DexKnight.Support.Traversal

variable {α β γ ε : Type} {items : List α} {all : List β}

theorem mapM_eq_some {read : α → Option β} :
    items.mapM read = some all ↔
      List.Forall₂ (fun item parsed => read item = some parsed) items all := by
  induction items generalizing all with
  | nil => simp [eq_comm]
  | cons first rest ih =>
    rw [List.mapM_cons, List.forall₂_cons_left_iff, Option.bind_eq_bind, Option.bind_eq_some_iff]
    constructor
    · rintro ⟨parsed, isParsed, isRest⟩
      obtain ⟨others, isOthers, isAll⟩ := Option.bind_eq_some_iff.mp isRest
      exact ⟨parsed, others, isParsed, ih.mp isOthers, (Option.some.inj isAll).symm⟩
    · rintro ⟨parsed, others, isParsed, isOthers, rfl⟩
      refine ⟨parsed, isParsed, ?_⟩
      rw [ih.mpr isOthers]
      rfl

theorem mapM_eq_ok {read : α → Except ε β} :
    items.mapM read = .ok all ↔
      List.Forall₂ (fun item parsed => read item = .ok parsed) items all := by
  induction items generalizing all with
  | nil =>
    rw [List.mapM_nil, List.forall₂_nil_left_iff]
    exact ⟨fun same => (Except.ok.inj same).symm, fun same => congrArg Except.ok same.symm⟩
  | cons first rest ih =>
    rw [List.mapM_cons, List.forall₂_cons_left_iff]
    constructor
    · intro isAll
      cases isFirst : read first with
      | error failure =>
        rw [isFirst] at isAll
        cases isAll
      | ok parsed =>
        cases isRest : rest.mapM read with
        | error failure =>
          rw [isFirst, isRest] at isAll
          cases isAll
        | ok others =>
          rw [isFirst, isRest] at isAll
          exact ⟨parsed, others, rfl, ih.mp isRest, (Except.ok.inj isAll).symm⟩
    · rintro ⟨parsed, others, isParsed, isOthers, rfl⟩
      rw [isParsed, ih.mpr isOthers]
      rfl

/-- A list is read back whole exactly when each of its elements is. -/
theorem mapM_map_eq_some {write : α → β} {read : β → Option α} :
    (items.map write).mapM read = some items ↔ ∀ item ∈ items, read (write item) = some item := by
  rw [mapM_eq_some, List.forall₂_map_left_iff, List.forall₂_same]

/-- Elements that are each related to something are related to a list. -/
theorem exists_forall₂ {Related : α → β → Prop} (each : ∀ item ∈ items, ∃ result, Related item result) :
    ∃ all, List.Forall₂ Related items all := by
  induction items with
  | nil => exact ⟨[], .nil⟩
  | cons first rest ih =>
    obtain ⟨result, related⟩ := each first List.mem_cons_self
    obtain ⟨others, isOthers⟩ := ih fun item member => each item (List.mem_cons_of_mem _ member)
    exact ⟨result :: others, .cons related isOthers⟩

theorem exists_of_mem_right {Related : α → β → Prop} (related : List.Forall₂ Related items all)
    {result : β} (member : result ∈ all) : ∃ item ∈ items, Related item result := by
  induction related with
  | nil => cases member
  | cons isFirst _ ih =>
    rcases List.mem_cons.mp member with rfl | later
    · exact ⟨_, List.mem_cons_self, isFirst⟩
    · obtain ⟨item, isItem, isRelated⟩ := ih later
      exact ⟨item, List.mem_cons_of_mem _ isItem, isRelated⟩

end DexKnight.Support.Traversal
