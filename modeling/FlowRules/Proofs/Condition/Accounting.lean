import Mathlib.Data.Finset.Card
import Mathlib.Data.List.DropRight
import FlowRules.Proofs.Run.Coherence

/-!
# What the cache of conditions counts

The cache is called to compile a text, to evaluate a condition, to tell whether a text is kept, and to start afresh.
Main statement: after any calls its counts are those of the lookups since the last reset, a text is kept exactly when
it has been compiled since then, everything that is given for a kept text is the one condition that is kept, and this
condition is as good as a fresh one (`ConditionCache.calls_accounted`).
-/

namespace FlowRules

namespace ConditionCache

/-! ### Calls and lookups -/

inductive Call where
  | compile (text : String)
  | evaluate (env : Environment) (text : Option String) (cursors : Cursors)
  | isCached (text : String)
  | reset

namespace Call

/-- What a call leaves of the cache. -/
def after (c : ConditionCache) : Call → ConditionCache
  | compile text => (c.compile text).2
  | evaluate env text cursors => (c.evaluate env text cursors).cache
  | isCached _ => c
  | reset => c.reset

/-- The text that a call looks up: that of every compilation, and that of an evaluation unless it is blank. -/
def text? : Call → Option String
  | compile text => some text
  | evaluate _ text _ => if isBlankCondition text then none else some (text.getD "")
  | isCached _ => none
  | reset => none

def isReset : Call → Bool
  | reset => true
  | _ => false

end Call

/-- A text that is looked up, whether it was kept before, and what is given for it. -/
structure Lookup where
  text : String
  found : Bool
  outcome : Except Fault Condition

/-- A condition is given. -/
def Lookup.succeeds (l : Lookup) : Bool := l.outcome.isOk

def lookup (c : ConditionCache) (text : String) : Lookup :=
  ⟨text, c.isCached text, (c.compile text).1.map Prod.fst⟩

/-- A cache, and what has been looked up in it since the last reset. -/
structure Session where
  cache : ConditionCache := {}
  lookups : List Lookup := []

namespace Session

def after (s : Session) (call : Call) : Session where
  cache := call.after s.cache
  lookups := if call.isReset then [] else s.lookups ++ (call.text?.map (lookup s.cache)).toList

/-- What some calls make of an empty cache. -/
def ofCalls (calls : List Call) : Session := calls.foldl after {}

theorem ofCalls_concat (calls : List Call) (call : Call) : ofCalls (calls ++ [call]) = (ofCalls calls).after call := by
  rw [ofCalls, List.foldl_append]
  rfl

end Session

/-! ### One lookup -/

variable {c : ConditionCache} {text : String}

/-- Compiling finds a condition, or fails, or keeps a new condition. -/
theorem compile_cases (c : ConditionCache) (text : String) :
    (∃ k, c.entries.lookup text = some k ∧ c.compile text = (.ok (k, false), { c with hits := c.hits + 1 })) ∨
    (∃ f, c.entries.lookup text = none ∧ Expr.ofText text = .error f ∧
      c.compile text = (.error f, { c with misses := c.misses + 1 })) ∨
    ∃ k : Condition, c.entries.lookup text = none ∧ k.text = text ∧ Expr.ofText text = .ok k.tree ∧
      c.compile text = (.ok (k, true),
        { c with entries := c.entries ++ [(text, k)], misses := c.misses + 1, parsed := c.parsed + 1 }) := by
  unfold compile
  rcases hlookup : c.entries.lookup text with _ | k
  · rcases hparse : Expr.ofText text with f | tree
    · exact .inr (.inl ⟨f, rfl, rfl, rfl⟩)
    · exact .inr (.inr ⟨⟨text, tree, c.parsed⟩, rfl, rfl, rfl, rfl⟩)
  · exact .inl ⟨k, rfl, rfl⟩

/-- A call that looks up a text compiles it. -/
theorem Call.after_of_text? {call : Call} (h : call.text? = some text) : call.after c = (c.compile text).2 := by
  cases call with
  | compile t =>
    cases h
    rfl
  | evaluate env t cursors =>
    rw [text?] at h
    split at h
    · cases h
    · next hblank =>
      cases h
      rw [after, ConditionCache.evaluate, if_neg hblank]
      rcases hcompile : c.compile (t.getD "") with ⟨_ | ⟨k, parsed⟩, _⟩ <;> rfl
  | isCached t => cases h
  | reset => cases h

/-- Other calls than resets leave the cache as it is if they look up nothing. -/
theorem Call.after_of_text?_none {call : Call} (h : call.text? = none) (hreset : call.isReset = false) :
    call.after c = c := by
  cases call with
  | compile t => cases h
  | evaluate env t cursors =>
    rw [text?] at h
    split at h
    · next hblank => rw [after, ConditionCache.evaluate, if_pos hblank]
    · cases h
  | isCached t => rfl
  | reset => cases hreset

/-! ### All calls -/

/-- What a cache counts and keeps, told by what has been looked up in it. -/
structure Session.Accounted (s : Session) : Prop where
  coherent : s.cache.Coherent
  nodup : (s.cache.entries.map Prod.fst).Nodup
  hits : s.cache.hits = s.lookups.countP fun l => l.found
  misses : s.cache.misses = s.lookups.countP fun l => !l.found
  size : s.cache.size = s.lookups.countP fun l => !l.found && l.succeeds
  kept : ∀ text k, (text, k) ∈ s.cache.entries ↔ ∃ l ∈ s.lookups, l.text = text ∧ l.outcome = .ok k
  refused : ∀ l ∈ s.lookups, ∀ f, l.outcome = .error f → Expr.ofText l.text = .error f

/-- A cache that starts afresh has nothing to account for. -/
theorem Session.Accounted.fresh (parsed : Nat) : Accounted ⟨{ parsed := parsed }, []⟩ where
  coherent := nofun
  nodup := List.nodup_nil
  hits := rfl
  misses := rfl
  size := rfl
  kept := by simp
  refused := nofun

theorem exists_lookup_append {ls : List Lookup} {l : Lookup} {P : Lookup → Prop} :
    (∃ m ∈ ls ++ [l], P m) ↔ (∃ m ∈ ls, P m) ∨ P l := by
  simp [or_and_right, exists_or]

section

variable {s : Session} {k : Condition} {f : Fault}

theorem Session.Accounted.hit (h : s.Accounted) (hfound : s.cache.entries.lookup text = some k) :
    Accounted ⟨{ s.cache with hits := s.cache.hits + 1 }, s.lookups ++ [⟨text, true, .ok k⟩]⟩ where
  coherent := h.coherent
  nodup := h.nodup
  hits := by rw [List.countP_append, ← h.hits]; rfl
  misses := by rw [List.countP_append, ← h.misses]; rfl
  size := by rw [List.countP_append, ← h.size]; rfl
  kept t j := by
    rw [exists_lookup_append, ← h.kept]
    refine ⟨.inl, ?_⟩
    rintro (hj | ⟨rfl, hj⟩)
    · exact hj
    · cases hj
      exact mem_of_lookup hfound
  refused := List.forall_mem_append.2 ⟨h.refused, List.forall_mem_singleton.2 nofun⟩

theorem Session.Accounted.refusal (h : s.Accounted) (hparse : Expr.ofText text = .error f) :
    Accounted ⟨{ s.cache with misses := s.cache.misses + 1 }, s.lookups ++ [⟨text, false, .error f⟩]⟩ where
  coherent := h.coherent
  nodup := h.nodup
  hits := by rw [List.countP_append, ← h.hits]; rfl
  misses := by rw [List.countP_append, ← h.misses]; rfl
  size := by rw [List.countP_append, ← h.size]; rfl
  kept t j := by
    rw [exists_lookup_append, ← h.kept]
    refine ⟨.inl, ?_⟩
    rintro (hj | ⟨-, hj⟩)
    · exact hj
    · cases hj
  refused := by
    refine List.forall_mem_append.2 ⟨h.refused, List.forall_mem_singleton.2 fun g hg => ?_⟩
    cases hg
    exact hparse

theorem Session.Accounted.insert (h : s.Accounted) (hnone : s.cache.entries.lookup text = none) (hk : k.text = text)
    (hparse : Expr.ofText text = .ok k.tree) :
    Accounted ⟨{ s.cache with
      entries := s.cache.entries ++ [(text, k)], misses := s.cache.misses + 1, parsed := s.cache.parsed + 1 },
      s.lookups ++ [⟨text, false, .ok k⟩]⟩ where
  coherent := List.forall_mem_append.2 ⟨h.coherent, List.forall_mem_singleton.2 ⟨hk, hparse⟩⟩
  nodup := by
    rw [List.map_append, List.map_singleton, ← List.concat_eq_append]
    exact h.nodup.concat (lookup_eq_none_iff_notMem.1 hnone)
  hits := by rw [List.countP_append, ← h.hits]; rfl
  misses := by rw [List.countP_append, ← h.misses]; rfl
  size := by rw [ConditionCache.size, List.length_append, List.countP_append, ← h.size]; rfl
  kept t j := by
    rw [exists_lookup_append, ← h.kept, List.mem_append, List.mem_singleton, Prod.mk.injEq, Except.ok.injEq,
      eq_comm (a := t), eq_comm (a := j)]
  refused := List.forall_mem_append.2 ⟨h.refused, List.forall_mem_singleton.2 nofun⟩

/-- Looking up a text keeps the accounts. -/
theorem Session.Accounted.lookup (h : s.Accounted) (text : String) :
    Accounted ⟨(s.cache.compile text).2, s.lookups ++ [s.cache.lookup text]⟩ := by
  rcases compile_cases s.cache text with ⟨k, hfound, hcompile⟩ | ⟨f, hnone, hparse, hcompile⟩ |
    ⟨k, hnone, hk, hparse, hcompile⟩
  · rw [ConditionCache.lookup, isCached, hfound, hcompile]
    exact h.hit hfound
  · rw [ConditionCache.lookup, isCached, hnone, hcompile]
    exact h.refusal hparse
  · rw [ConditionCache.lookup, isCached, hnone, hcompile]
    exact h.insert hnone hk hparse

/-- Every call keeps the accounts. -/
theorem Session.Accounted.after (h : s.Accounted) (call : Call) : (s.after call).Accounted := by
  cases hreset : call.isReset with
  | false =>
    rw [Session.after, hreset, if_neg Bool.false_ne_true]
    -- whatever else the call does with the condition that it is given, the cache is that of the lookup
    cases htext : call.text? with
    | none =>
      rw [Call.after_of_text?_none htext hreset, Option.map_none, Option.toList_none, List.append_nil]
      exact h
    | some text =>
      rw [Call.after_of_text? htext]
      exact h.lookup text
  | true =>
    obtain rfl : call = .reset := by
      cases call <;> first | rfl | cases hreset
    exact .fresh s.cache.parsed

theorem Session.accounted (calls : List Call) : (ofCalls calls).Accounted := by
  induction calls using List.reverseRecOn with
  | nil => exact .fresh 0
  | append_singleton calls call ih =>
    rw [ofCalls_concat]
    exact ih.after call

end

/-! ### What a session is about -/

/-- The calls since the last reset. -/
def sinceReset (calls : List Call) : List Call := calls.rtakeWhile fun call => !call.isReset

theorem Session.cache_ofCalls (calls : List Call) : (ofCalls calls).cache = calls.foldl Call.after {} := by
  induction calls using List.reverseRecOn with
  | nil => rfl
  | append_singleton calls call ih =>
    rw [List.foldl_append, ← ih, ofCalls_concat]
    rfl

/-- The texts that are looked up are those of the calls since the last reset. -/
theorem Session.texts_ofCalls (calls : List Call) :
    (ofCalls calls).lookups.map Lookup.text = (sinceReset calls).filterMap Call.text? := by
  induction calls using List.reverseRecOn with
  | nil => rfl
  | append_singleton calls call ih =>
    rw [ofCalls_concat, after, sinceReset]
    cases hreset : call.isReset with
    | false =>
      rw [List.rtakeWhile_concat_pos _ _ _ (by rw [hreset]; rfl), List.filterMap_append, ← sinceReset, ← ih,
        if_neg Bool.false_ne_true, List.map_append]
      cases htext : call.text? <;> simp [htext, ConditionCache.lookup]
    | true =>
      rw [List.rtakeWhile_concat_neg _ _ _ (by rw [hreset]; decide)]
      rfl

theorem isCached_iff_mem : c.isCached text = true ↔ text ∈ c.entries.map Prod.fst := by
  rw [isCached, Option.isSome_iff_ne_none, ne_eq, lookup_eq_none_iff_notMem, not_not]

namespace Session.Accounted

variable {s : Session} (h : s.Accounted)

include h

theorem isCached_iff : s.cache.isCached text = true ↔ ∃ l ∈ s.lookups, l.text = text ∧ l.succeeds = true := by
  rw [isCached, Option.isSome_iff_exists]
  constructor
  · rintro ⟨k, hk⟩
    obtain ⟨l, hl, htext, houtcome⟩ := (h.kept text k).1 (mem_of_lookup hk)
    exact ⟨l, hl, htext, by rw [Lookup.succeeds, houtcome]; rfl⟩
  · rintro ⟨l, hl, htext, hsucceeds⟩
    rcases houtcome : l.outcome with f | k
    · rw [Lookup.succeeds, houtcome] at hsucceeds
      cases hsucceeds
    · exact ⟨k, (lookup_eq_some_iff_mem h.nodup).2 ((h.kept text k).2 ⟨l, hl, htext, houtcome⟩)⟩

/-- Everything that is given for a text that is kept is the one condition that is kept for it. -/
theorem outcome_eq {k : Condition} (hk : s.cache.entries.lookup text = some k) {l : Lookup} (hl : l ∈ s.lookups)
    (htext : l.text = text) : l.outcome = .ok k := by
  rcases houtcome : l.outcome with f | j
  · have hparse := (h.coherent _ (mem_of_lookup hk)).2
    have hrefused := h.refused l hl f houtcome
    rw [htext, hparse] at hrefused
    cases hrefused
  · have hj := (lookup_eq_some_iff_mem h.nodup).2 ((h.kept text j).2 ⟨l, hl, htext, houtcome⟩)
    rw [hk] at hj
    exact congrArg Except.ok (Option.some.inj hj).symm

theorem compile_cached (hcached : s.cache.isCached text = true) :
    ∃ k, s.cache.compile text = (.ok (k, false), { s.cache with hits := s.cache.hits + 1 }) ∧
      ∀ l ∈ s.lookups, l.text = text → l.outcome = .ok k := by
  obtain ⟨k, hk⟩ := Option.isSome_iff_exists.1 hcached
  refine ⟨k, ?_, fun l hl htext => h.outcome_eq hk hl htext⟩
  rw [compile, hk]

theorem size_eq_card : s.cache.size = ((s.lookups.filter Lookup.succeeds).map Lookup.text).toFinset.card := by
  have htexts : ((s.lookups.filter Lookup.succeeds).map Lookup.text).toFinset =
      (s.cache.entries.map Prod.fst).toFinset := by
    ext text
    rw [List.mem_toFinset, List.mem_toFinset, ← isCached_iff_mem, h.isCached_iff, List.mem_map]
    exact exists_congr fun l => by rw [List.mem_filter, and_assoc, and_comm (a := l.text = text)]
  rw [htexts, List.toFinset_card_of_nodup h.nodup, List.length_map]
  rfl

end Session.Accounted

/-- A condition that is kept is as good as a fresh one. -/
theorem Coherent.fresh {c : ConditionCache} (hc : c.Coherent) {e : String × Condition} (he : e ∈ c.entries) :
    ∃ k, (({} : ConditionCache).compile e.1).1 = .ok (k, true) ∧ e.2.text = k.text ∧ e.2.tree = k.tree ∧
      ∀ env, e.2.holds env = k.holds env := by
  obtain ⟨htext, hparse⟩ := hc e he
  refine ⟨⟨e.1, e.2.tree, 0⟩, ?_, htext, rfl, Condition.holds_congr htext rfl⟩
  rw [compile]
  simp only [List.lookup_nil, hparse]

/-- After any calls the cache counts the lookups since the last reset.  Its size is the number of texts for which a
condition was given, and the number of conditions that were not found and were given.  A text is kept exactly when a
condition was given for it; compiling it then is a hit and gives the very condition that every lookup of it gave; and
every condition that is kept is as good as a fresh one. -/
theorem calls_accounted (calls : List Call) :
    let c := calls.foldl Call.after {}
    let texts := (sinceReset calls).filterMap Call.text?
    let lookups := (Session.ofCalls calls).lookups
    lookups.map Lookup.text = texts ∧
    c.hits + c.misses = texts.length ∧
    c.hits = (lookups.filter fun l => l.found).length ∧
    c.size = ((lookups.filter Lookup.succeeds).map Lookup.text).toFinset.card ∧
    c.size = (lookups.filter fun l => !l.found && l.succeeds).length ∧
    (∀ text, c.isCached text = true ↔ ∃ l ∈ lookups, l.text = text ∧ l.succeeds = true) ∧
    (∀ text, c.isCached text = true →
      ∃ k, c.compile text = (.ok (k, false), { c with hits := c.hits + 1 }) ∧
        ∀ l ∈ lookups, l.text = text → l.outcome = .ok k) ∧
    ∀ e ∈ c.entries, ∃ k, (({} : ConditionCache).compile e.1).1 = .ok (k, true) ∧ e.2.text = k.text ∧
      e.2.tree = k.tree ∧ ∀ env, e.2.holds env = k.holds env := by
  intro c texts lookups
  have h := Session.accounted calls
  have hcache : (Session.ofCalls calls).cache = c := Session.cache_ofCalls calls
  have htexts : lookups.map Lookup.text = texts := Session.texts_ofCalls calls
  have hcount : c.hits + c.misses = texts.length := by
    rw [← htexts, List.length_map, List.length_eq_countP_add_countP fun l : Lookup => l.found, ← hcache, h.hits,
      h.misses]
    simp [lookups]
  rw [← hcache] at hcount ⊢
  refine ⟨htexts, hcount, ?_, h.size_eq_card, ?_, fun _ => h.isCached_iff, fun _ => h.compile_cached,
    fun _ => h.coherent.fresh⟩
  · rw [h.hits, List.countP_eq_length_filter]
  · rw [h.size, List.countP_eq_length_filter]

end ConditionCache
end FlowRules
