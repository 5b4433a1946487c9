import TurtleWow.Objects.Placement

namespace TurtleWow.Objects

open Early Inventory List

-- The searches of _CanStoreItem as a list: what each pass has to offer depends on
-- the inventory alone, and only how much is taken on what was placed before.

structure Offer where
  pos : Pos
  space : Nat

inductive Pass where
  | offer (offers : List Offer)
  | stop (msg : InventoryResult) (counts : Bool)

namespace Search

def positions (s : Search) : List Pos := s.dest.map fun p => p.pos

def placed (s : Search) : Nat := (s.dest.map fun p => p.count).sum

end Search

theorem isContained_iff {s : Search} {pos : Pos} : s.isContained pos = true ↔ pos ∈ s.positions := by
  simp [Search.isContained, Search.positions]

def takeAll : List Offer → Search → Search
  | [], s => s
  | o :: rest, s =>
    if s.isContained o.pos then takeAll rest s
    else if (s.push o.pos o.space).count = 0 then s.push o.pos o.space
    else takeAll rest (s.push o.pos o.space)

def runPasses (noSimilarCount : Nat) : List Pass → Search → Except StoreResult Search
  | [], s => .ok s
  | .stop msg counts :: _, s => .error ⟨msg, s.dest, if counts then Word.add32 s.count noSimilarCount else 0⟩
  | .offer offers :: rest, s =>
    if (takeAll offers s).count = 0 then .error (placedAll noSimilarCount (takeAll offers s))
    else runPasses noSimilarCount rest (takeAll offers s)

def roomAfter : List Pos → List Offer → Nat
  | _, [] => 0
  | seen, o :: rest => if o.pos ∈ seen then roomAfter seen rest else o.space + roomAfter (seen ++ [o.pos]) rest

def seenAfter : List Pos → List Offer → List Pos
  | seen, [] => seen
  | seen, o :: rest => if o.pos ∈ seen then seenAfter seen rest else seenAfter (seen ++ [o.pos]) rest

def offered : List Pass → List Offer
  | [] => []
  | .stop _ _ :: _ => []
  | .offer offers :: rest => offers ++ offered rest

def stops : List Pass → Option InventoryResult
  | [] => none
  | .stop msg _ :: _ => some msg
  | .offer _ :: rest => stops rest

theorem roomAfter_append (seen : List Pos) (first second : List Offer) :
    roomAfter seen (first ++ second) = roomAfter seen first + roomAfter (seenAfter seen first) second := by
  induction first generalizing seen with
  | nil => simp [roomAfter, seenAfter]
  | cons o rest ih =>
    simp only [cons_append, roomAfter, seenAfter]
    split
    · exact ih seen
    · rw [ih, Nat.add_assoc]

theorem runPasses_append (noSimilarCount : Nat) (first second : List Pass) (s : Search) :
    runPasses noSimilarCount (first ++ second) s =
      (runPasses noSimilarCount first s >>= runPasses noSimilarCount second) := by
  induction first generalizing s with
  | nil => rfl
  | cons pass rest ih =>
    cases pass with
    | stop msg counts => rfl
    | offer offers =>
      simp only [cons_append, runPasses]
      split
      · rfl
      · exact ih _

section

variable {s : Search} {o : Offer}

theorem positions_push (pos : Pos) (space : Nat) : (s.push pos space).positions = s.positions ++ [pos] := by
  simp [Search.positions, Search.push]

theorem count_push (pos : Pos) (space : Nat) : (s.push pos space).count = s.count - space := by
  simp only [Search.push]
  omega

theorem placed_push (pos : Pos) {space : Nat} (hspace : space ≤ 255) :
    (s.push pos space).placed + (s.push pos space).count = s.placed + s.count := by
  have hu8 : Word.u8 (min space s.count) = min space s.count := Word.u8_of_lt (by omega)
  simp only [Search.placed, Search.push, hu8, map_append, map_cons, map_nil, sum_append,
    sum_cons, sum_nil]
  omega

theorem count_takeAll (offers : List Offer) (hleft : 0 < s.count) :
    (takeAll offers s).count = s.count - roomAfter s.positions offers := by
  induction offers generalizing s with
  | nil => rfl
  | cons o rest ih =>
    unfold takeAll roomAfter
    by_cases hseen : o.pos ∈ s.positions
    · rw [if_pos (isContained_iff.mpr hseen), if_pos hseen]
      exact ih hleft
    · rw [if_neg (fun h => hseen (isContained_iff.mp h)), if_neg hseen]
      have hcount := count_push (s := s) o.pos o.space
      split
      · omega
      · next hmore =>
          rw [ih (Nat.pos_of_ne_zero hmore), positions_push, hcount]
          omega

theorem positions_takeAll (offers : List Offer) (h : (takeAll offers s).count ≠ 0) :
    (takeAll offers s).positions = seenAfter s.positions offers := by
  induction offers generalizing s with
  | nil => rfl
  | cons o rest ih =>
    unfold takeAll at h ⊢
    unfold seenAfter
    by_cases hseen : o.pos ∈ s.positions
    · rw [if_pos (isContained_iff.mpr hseen)] at h ⊢
      rw [if_pos hseen]
      exact ih h
    · rw [if_neg (fun h => hseen (isContained_iff.mp h))] at h ⊢
      rw [if_neg hseen]
      split at h
      · next hzero => exact absurd hzero h
      · next hmore =>
          rw [if_neg hmore, ← positions_push]
          exact ih h

theorem placed_takeAll {offers : List Offer} (hspace : ∀ o ∈ offers, o.space ≤ 255) :
    (takeAll offers s).placed + (takeAll offers s).count = s.placed + s.count := by
  induction offers generalizing s with
  | nil => rfl
  | cons o rest ih =>
    obtain ⟨ho, hrest⟩ := forall_mem_cons.mp hspace
    unfold takeAll
    split
    · exact ih hrest
    · split
      · exact placed_push o.pos ho
      · rw [ih hrest]
        exact placed_push o.pos ho

theorem mem_takeAll {offers : List Offer} {pos : Pos} (h : pos ∈ (takeAll offers s).positions) :
    pos ∈ s.positions ∨ ∃ o ∈ offers, o.pos = pos := by
  induction offers generalizing s with
  | nil => exact .inl h
  | cons o rest ih =>
    have hpush : ∀ pos, pos ∈ (s.push o.pos o.space).positions → pos ∈ s.positions ∨ ∃ o' ∈ o :: rest, o'.pos = pos := by
      intro pos hmem
      rw [positions_push] at hmem
      rcases mem_append.mp hmem with hmem | hmem
      · exact .inl hmem
      · exact .inr ⟨o, mem_cons_self, (mem_singleton.mp hmem).symm⟩
    have hlater : (∃ o' ∈ rest, o'.pos = pos) → ∃ o' ∈ o :: rest, o'.pos = pos :=
      fun ⟨o', hmem, hpos⟩ => ⟨o', mem_cons_of_mem _ hmem, hpos⟩
    unfold takeAll at h
    split at h
    · exact (ih h).imp_right hlater
    · split at h
      · exact hpush pos h
      · exact (ih h).elim (hpush pos) fun h => .inr (hlater h)

end

-- How a search ends: with everything placed when the room is enough, else at the
-- pass that stops it or behind the last one.
theorem runPasses_cases (noSimilarCount : Nat) {passes : List Pass} {s : Search}
    (hspace : ∀ o ∈ offered passes, o.space ≤ 255) (hleft : 0 < s.count) :
    if s.count ≤ roomAfter s.positions (offered passes) then
      ∃ last, runPasses noSimilarCount passes s = .error (placedAll noSimilarCount last) ∧ last.count = 0 ∧
        last.placed = s.placed + s.count
    else
      match stops passes with
      | some msg => ∃ res, runPasses noSimilarCount passes s = .error res ∧ res.msg = msg
      | none => ∃ last, runPasses noSimilarCount passes s = .ok last ∧
          last.count = s.count - roomAfter s.positions (offered passes) ∧ last.placed + last.count = s.placed + s.count := by
  induction passes generalizing s with
  | nil =>
    rw [offered, roomAfter, if_neg (by omega)]
    exact ⟨s, rfl, rfl, rfl⟩
  | cons pass rest ih =>
    cases pass with
    | stop msg counts =>
      rw [offered, roomAfter, if_neg (by omega)]
      exact ⟨_, rfl, rfl⟩
    | offer offers =>
      have hfirst : ∀ o ∈ offers, o.space ≤ 255 := fun o ho => hspace o (mem_append_left _ ho)
      have hrest : ∀ o ∈ offered rest, o.space ≤ 255 := fun o ho => hspace o (mem_append_right _ ho)
      have hcount := count_takeAll offers hleft
      have hplaced := placed_takeAll (s := s) hfirst
      simp only [offered, roomAfter_append, runPasses, stops]
      by_cases hzero : (takeAll offers s).count = 0
      · rw [if_pos hzero, if_pos (by omega)]
        exact ⟨takeAll offers s, rfl, hzero, by omega⟩
      · rw [if_neg hzero]
        have hmore := ih (s := takeAll offers s) hrest (Nat.pos_of_ne_zero hzero)
        rw [positions_takeAll offers hzero, hplaced] at hmore
        generalize hroom : roomAfter (seenAfter s.positions offers) (offered rest) = room at hmore ⊢
        by_cases henough : (takeAll offers s).count ≤ room
        · rw [if_pos henough] at hmore
          rw [if_pos (by omega)]
          exact hmore
        · rw [if_neg henough] at hmore
          rw [if_neg (by omega)]
          cases hstops : stops rest with
          | some msg =>
            rw [hstops] at hmore
            exact hmore
          | none =>
            rw [hstops] at hmore
            obtain ⟨last, hrun, hlast, hsum⟩ := hmore
            exact ⟨last, hrun, by omega, hsum⟩

end TurtleWow.Objects
