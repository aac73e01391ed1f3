/-
This file proves which texts a cache keeps: those that were asked for last, among the ones that compile.
-/

import Tabletop.Cache
import Tabletop.Proofs.Lists

namespace Tabletop.Cache

open Recency

variable {α ε : Type} {compile : String → Except ε α} {cache : Cache α} {key : String} {value : α}

/-! Values -/

/-- Every kept value is what its text compiles to. -/
def Faithful (compile : String → Except ε α) (cache : Cache α) : Prop :=
  ∀ entry ∈ cache.entries, compile entry.1 = .ok entry.2

/-- The texts of the entries, from the longest unused to the latest used. -/
def keys (cache : Cache α) : List String :=
  cache.entries.map (·.1)

theorem find?_eq_some (found : cache.find? key = some value) : (key, value) ∈ cache.entries := by
  obtain ⟨⟨here, kept⟩, first, rfl⟩ := Option.map_eq_some_iff.1 found
  have same : here = key := by simpa using List.find?_some first
  rw [← same]
  exact List.mem_of_find?_eq_some first

theorem find?_isSome : (cache.find? key).isSome = true ↔ key ∈ cache.keys := by
  simp [find?, keys]

theorem Faithful.find? (faithful : cache.Faithful compile) (found : cache.find? key = some value) :
    compile key = .ok value :=
  faithful _ (find?_eq_some found)

theorem newWith_faithful (bytesOf : String → Nat) (capacity : Nat) :
    (newWith bytesOf capacity).Faithful compile :=
  nofun

theorem dropToBytes_suffix (bytesOf : String → Nat) (limit : Nat) (entries : List (String × α)) :
    dropToBytes bytesOf limit entries <:+ entries := by
  induction entries with
  | nil => exact List.suffix_rfl
  | cons entry rest inductionHypothesis =>
      unfold dropToBytes
      split
      · exact List.suffix_rfl
      · exact inductionHypothesis.trans (List.suffix_cons entry rest)

/-- What a cache holds after an insertion was there before or is new. -/
theorem insert_cases {entry : String × α} (member : entry ∈ (cache.insert key value).entries) :
    entry ∈ cache.entries ∨ entry = (key, value) := by
  unfold insert at member
  split at member
  · exact .inl member
  · have kept := List.mem_of_mem_drop member
    rcases List.mem_append.1 kept with earlier | new
    · exact .inl ((dropToBytes_suffix _ _ _).subset earlier)
    · exact .inr (List.mem_singleton.1 new)

theorem Faithful.insert (faithful : cache.Faithful compile) (compiles : compile key = .ok value) :
    (cache.insert key value).Faithful compile := by
  intro entry member
  rcases insert_cases member with earlier | rfl
  · exact faithful entry earlier
  · exact compiles

/-! Requests -/

/-- What a cache becomes when a text is asked for. -/
inductive Becomes (compile : String → Except ε α) (cache : Cache α) (key : String) : Cache α → Prop where
  | hit {value : α} (found : cache.find? key = some value) :
      Becomes compile cache key { cache with entries := (cache.without key).entries ++ [(key, value)] }
  | miss {value : α} (missing : cache.find? key = none) (compiles : compile key = .ok value) :
      Becomes compile cache key (cache.insert key value)
  | failure {error : ε} (missing : cache.find? key = none) (fails : compile key = .error error) :
      Becomes compile cache key cache

theorem getOrCompile_becomes (cache : Cache α) (key : String) (compile : String → Except ε α) :
    Becomes compile cache key (cache.getOrCompile key compile).2 := by
  unfold getOrCompile
  cases found : cache.find? key with
  | some value => exact .hit found
  | none =>
      cases compiles : compile key with
      | ok value => exact .miss found compiles
      | error error => exact .failure found compiles

/-- Asking a cache answers what compiling the text afresh answers. -/
theorem Faithful.result (faithful : cache.Faithful compile) (key : String) :
    (cache.getOrCompile key compile).1 = compile key := by
  unfold getOrCompile
  cases found : cache.find? key with
  | some value => exact (faithful.find? found).symm
  | none => cases compile key <;> rfl

/-- The place of a kept text is free once its entry is taken out. -/
theorem without_length (found : cache.find? key = some value) :
    (cache.without key).entries.length < cache.entries.length := by
  refine List.length_filter_lt_length_iff_exists.2 ⟨(key, value), find?_eq_some found, ?_⟩
  simp

theorem insert_bounded (bounded : cache.entries.length ≤ cache.capacity) :
    (cache.insert key value).entries.length ≤ cache.capacity := by
  unfold insert
  split
  · exact bounded
  · simp only [List.length_drop]
    omega

namespace Becomes

variable {after : Cache α}

theorem faithful (step : Becomes compile cache key after) (faithful : cache.Faithful compile) :
    after.Faithful compile := by
  cases step with
  | hit found =>
      intro entry member
      rcases List.mem_append.1 member with earlier | latest
      · exact faithful entry (List.mem_of_mem_filter earlier)
      · rw [List.mem_singleton.1 latest]
        exact faithful.find? found
  | miss missing compiles => exact faithful.insert compiles
  | failure missing fails => exact faithful

/-- A text that does not compile leaves the cache as it was. -/
theorem unchanged (step : Becomes compile cache key after) (faithful : cache.Faithful compile) {error : ε}
    (fails : compile key = .error error) : after = cache := by
  cases step with
  | hit found => exact nomatch (faithful.find? found).symm.trans fails
  | miss missing compiles => exact nomatch compiles.symm.trans fails
  | failure missing fails => rfl

theorem capacity (step : Becomes compile cache key after) : after.capacity = cache.capacity := by
  cases step with
  | hit found => rfl
  | miss missing compiles =>
      unfold insert
      split <;> rfl
  | failure missing fails => rfl

theorem bytesOf (step : Becomes compile cache key after) : after.bytesOf = cache.bytesOf := by
  cases step with
  | hit found => rfl
  | miss missing compiles =>
      unfold insert
      split <;> rfl
  | failure missing fails => rfl

theorem bounded (step : Becomes compile cache key after) (bounded : cache.entries.length ≤ cache.capacity) :
    after.entries.length ≤ cache.capacity := by
  cases step with
  | hit found =>
      rw [List.length_append, List.length_singleton]
      exact Nat.le_trans (without_length found) bounded
  | miss missing compiles => exact insert_bounded bounded
  | failure missing fails => exact bounded

end Becomes

/-! Histories -/

/-- The cache after some texts were asked for. -/
def requestEach (compile : String → Except ε α) (cache : Cache α) (history : List String) : Cache α :=
  history.foldl (fun cache key => (cache.getOrCompile key compile).2) cache

theorem requestEach_concat (compile : String → Except ε α) (cache : Cache α) (history : List String)
    (key : String) : cache.requestEach compile (history ++ [key]) =
      ((cache.requestEach compile history).getOrCompile key compile).2 := by
  rw [requestEach, List.foldl_append]
  rfl

/-- A cache of some capacity with the right values that is not too full. -/
structure Sound (compile : String → Except ε α) (bytesOf : String → Nat) (room : Nat) (cache : Cache α) :
    Prop where
  faithful : cache.Faithful compile
  sizes : cache.bytesOf = bytesOf
  capacity : cache.capacity = room
  bounded : cache.entries.length ≤ room

theorem newWith_sound (bytesOf : String → Nat) (capacity : Nat) :
    (newWith bytesOf capacity).Sound compile bytesOf (max capacity 1) where
  faithful := newWith_faithful bytesOf capacity
  sizes := rfl
  capacity := rfl
  bounded := Nat.zero_le _

theorem Becomes.sound {after : Cache α} {bytesOf : String → Nat} {room : Nat}
    (step : Becomes compile cache key after) (sound : cache.Sound compile bytesOf room) :
    after.Sound compile bytesOf room where
  faithful := step.faithful sound.faithful
  sizes := step.bytesOf.trans sound.sizes
  capacity := step.capacity.trans sound.capacity
  bounded := sound.capacity ▸ step.bounded (sound.capacity.symm ▸ sound.bounded)

theorem requestEach_sound (compile : String → Except ε α) (bytesOf : String → Nat) (capacity : Nat)
    (history : List String) :
    ((newWith bytesOf capacity).requestEach compile history).Sound compile bytesOf (max capacity 1) := by
  induction history using List.reverseRecOn with
  | nil => exact newWith_sound bytesOf capacity
  | append_singleton history key inductionHypothesis =>
      rw [requestEach_concat]
      exact (getOrCompile_becomes _ key compile).sound inductionHypothesis

/-! Recency -/

/-- The texts of a history that compile, each at its last request. -/
def compiled (compile : String → Except ε α) (history : List String) : List String :=
  (history.filter fun key => (compile key).isOk).dedup

/-- The texts of a history that compile and were asked for last, at most `count` of them. -/
def latest (compile : String → Except ε α) (count : Nat) (history : List String) : List String :=
  (compiled compile history).rtake count

/-- The latest texts after one more. -/
def touch (count : Nat) (keys : List String) (key : String) : List String :=
  (keys.filter (· != key)).rtake (count - 1) ++ [key]

theorem latest_concat_ok {count : Nat} (room : 1 ≤ count) (history : List String)
    (compiles : (compile key).isOk = true) :
    latest compile count (history ++ [key]) = touch count (latest compile count history) key := by
  obtain ⟨fewer, rfl⟩ := Nat.exists_eq_add_of_le' room
  have one : [key].filter (fun key => (compile key).isOk) = [key] := by simp [compiles]
  have nodup : (compiled compile history).Nodup := List.nodup_dedup _
  have behind : compiled compile (history ++ [key]) =
      (compiled compile history).filter (· != key) ++ [key] := by
    rw [compiled, List.filter_append, one, dedup_concat, compiled]
  rw [latest, behind, List.rtake_concat_succ, touch, latest, Nat.add_sub_cancel, rtake_filter_rtake nodup]

theorem latest_concat_error (count : Nat) (history : List String) (fails : (compile key).isOk = false) :
    latest compile count (history ++ [key]) = latest compile count history := by
  have none : [key].filter (fun key => (compile key).isOk) = [] := by simp [fails]
  rw [latest, compiled, List.filter_append, none, List.append_nil]
  rfl

/-! Budgets -/

theorem bytes_append (bytesOf : String → Nat) (keys others : List String) :
    bytes bytesOf (keys ++ others) = bytes bytesOf keys + bytes bytesOf others := by
  rw [bytes, List.map_append, Number.total_append, bytes, bytes]

/-- Entries that are dropped for some bytes are dropped only until the others fit. -/
theorem dropToBytes_eq_drop {bytesOf : String → Nat} {limit count : Nat} {entries : List (String × α)}
    (fits : bytes bytesOf ((entries.drop count).map (·.1)) ≤ limit) :
    ∃ dropped ≤ count, dropToBytes bytesOf limit entries = entries.drop dropped := by
  induction entries generalizing count with
  | nil => exact ⟨0, Nat.zero_le _, rfl⟩
  | cons entry rest inductionHypothesis =>
      unfold dropToBytes
      by_cases small : bytes bytesOf ((entry :: rest).map (·.1)) ≤ limit
      · exact ⟨0, Nat.zero_le _, if_pos small⟩
      · rw [if_neg small]
        cases count with
        | zero => exact absurd fits small
        | succ count =>
            obtain ⟨dropped, fewer, same⟩ := inductionHypothesis fits
            exact ⟨dropped + 1, Nat.succ_le_succ fewer, same⟩

theorem map_rtake (entries : List (String × α)) (count : Nat) :
    (entries.rtake count).map (·.1) = (entries.map (·.1)).rtake count := by
  rw [List.rtake, List.rtake, List.map_drop, List.length_map]

/-- An insertion drops an entry only to keep the capacity if the bytes of the others fit. -/
theorem insert_keys (room : 1 ≤ cache.capacity)
    (fits : bytes cache.bytesOf (cache.keys.rtake (cache.capacity - 1) ++ [key]) ≤ cache.budget) :
    (cache.insert key value).keys = cache.keys.rtake (cache.capacity - 1) ++ [key] := by
  have shared : bytes cache.bytesOf (cache.keys.rtake (cache.capacity - 1)) + cache.bytesOf key ≤
      cache.budget := by
    rw [bytes_append] at fits
    exact fits
  have left : bytes cache.bytesOf ((cache.entries.rtake (cache.capacity - 1)).map (·.1)) ≤
      cache.budget - cache.bytesOf key := by
    rw [map_rtake]
    exact Nat.le_sub_of_add_le shared
  obtain ⟨dropped, few, same⟩ := dropToBytes_eq_drop left
  have fitting : ¬cache.budget < cache.bytesOf key := by omega
  have inserted : (cache.insert key value).entries =
      (cache.entries.drop dropped ++ [(key, value)]).rtake (cache.capacity - 1 + 1) := by
    rw [Nat.sub_add_cancel room, insert, if_neg fitting, same]
    rfl
  -- The entries that were dropped for their bytes are too many for the capacity anyway.
  have counted : dropped + ((cache.entries.drop dropped).length - (cache.capacity - 1)) =
      cache.entries.length - (cache.capacity - 1) := by
    rw [List.length_drop]
    omega
  rw [keys, inserted, List.rtake_concat_succ, List.rtake, List.drop_drop, counted, List.map_append, keys,
    ← map_rtake]
  rfl

/-- A text that compiles becomes the latest one if the bytes of the latest ones fit. -/
theorem Becomes.touches {after : Cache α} (step : Becomes compile cache key after)
    (compiles : (compile key).isOk = true) (room : 1 ≤ cache.capacity)
    (bounded : cache.entries.length ≤ cache.capacity)
    (fits : bytes cache.bytesOf (touch cache.capacity cache.keys key) ≤ cache.budget) :
    after.keys = touch cache.capacity cache.keys key := by
  cases step with
  | hit found =>
      have shorter := without_length found
      have same : (cache.without key).entries.map (·.1) = cache.keys.filter (· != key) := by
        rw [keys, List.filter_map]
        rfl
      have few : (cache.keys.filter (· != key)).length ≤ cache.capacity - 1 := by
        rw [← same, List.length_map]
        omega
      rw [keys, List.map_append, same, touch, rtake_of_length_le few]
      rfl
  | miss missing =>
      have others : cache.keys.filter (· != key) = cache.keys := by
        rw [List.filter_eq_self]
        intro other member
        have absent : key ∉ cache.keys := by
          rw [← find?_isSome, missing]
          nofun
        simpa using fun same : other = key => absent (same ▸ member)
      rw [touch, others] at fits ⊢
      exact insert_keys room fits
  | failure missing fails =>
      rw [fails] at compiles
      cases compiles

/-- The latest texts fit into the budget at every moment of a history. -/
def Roomy (bytesOf : String → Nat) (compile : String → Except ε α) (count : Nat)
    (history : List String) : Prop :=
  ∀ earlier, earlier <+: history → bytes bytesOf (latest compile count earlier) ≤ count * entryBytes

/-- Texts fit if none of them takes up more than its share. -/
theorem roomy_of_short {bytesOf : String → Nat} {history : List String} (count : Nat)
    (short : ∀ key ∈ history, (compile key).isOk = true → bytesOf key ≤ entryBytes) :
    Roomy bytesOf compile count history := by
  intro earlier before
  have each : ∀ size ∈ (latest compile count earlier).map bytesOf, size ≤ entryBytes := by
    intro size member
    obtain ⟨key, late, rfl⟩ := List.mem_map.1 member
    have asked := List.mem_filter.1 (List.mem_dedup.1 (List.mem_of_mem_drop late))
    exact short key (before.subset asked.1) asked.2
  refine (Number.total_le each).trans (Nat.mul_le_mul_right _ ?_)
  rw [List.length_map]
  exact length_rtake_le _ _

/-- A cache keeps exactly the latest texts that compile, in their order, while they fit into its budget. -/
theorem requestEach_keys {bytesOf : String → Nat} {capacity : Nat} {history : List String}
    (roomy : Roomy bytesOf compile (max capacity 1) history) :
    ((newWith bytesOf capacity).requestEach compile history).keys =
      latest compile (max capacity 1) history := by
  induction history using List.reverseRecOn with
  | nil => simp [requestEach, newWith, keys, latest, compiled]
  | append_singleton history key inductionHypothesis =>
      have earlier := inductionHypothesis fun first before =>
        roomy first (before.trans (List.prefix_append history [key]))
      have fits := roomy _ List.prefix_rfl
      obtain ⟨faithful, sizes, capacities, bounded⟩ := requestEach_sound compile bytesOf capacity history
      rw [requestEach_concat]
      generalize (newWith bytesOf capacity).requestEach compile history = cache at *
      have step := getOrCompile_becomes cache key compile
      have positive : 1 ≤ max capacity 1 := Nat.le_max_right _ _
      cases compiles : compile key with
      | error error =>
          rw [step.unchanged faithful compiles, latest_concat_error _ _ (by rw [compiles]; rfl), earlier]
      | ok value =>
          have isOk : (compile key).isOk = true := by
            rw [compiles]
            rfl
          rw [latest_concat_ok positive _ isOk, ← earlier, ← capacities] at fits ⊢
          rw [← sizes] at fits
          rw [← capacities] at positive bounded
          exact step.touches isOk positive bounded fits

end Tabletop.Cache
