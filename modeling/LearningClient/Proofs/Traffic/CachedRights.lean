import LearningClient.Proofs.Client.Rules
import LearningClient.Proofs.LastWord
import LearningClient.Proofs.Loads.Truthful
import LearningClient.Proofs.Traffic.Repeats

/-!
# Rights that are cached

The rights that a client keeps for a skill are those that were cached last: a
caller had them, or a load was answered with what can be read as rights
(`Traffic.Caches`). Whether they are there is told of any name, and a load
that passes its rules says what they are at once, and sends nothing
(`Traffic.cached_rights_load`), as long as the cache neither loses entries
nor reports nothing for those it has.

A load looks at its rules before it looks at the cache. Rights can be cached
under any name, so what is cached under a name that breaks a rule is said to
be there, and a load of it is refused all the same (`Traffic.cached_not_loaded`).
-/

namespace LearningClient

/-- What a caller does to a cache: nothing, unless it leads and its fetch has
yielded a value. -/
theorem Accessor.Acts.cache {V : Type} {a a' : Accessor V} {key : String} {p p' : Place}
    {r : Option (Outcome V)} (acts : a.Acts key p p' r a') :
    a'.cache = a.cache ∨
      ∃ f v, p = .leads key f ∧ r = some (.ok v) ∧ a'.cache = a.cache.insert key v := by
  cases acts with
  | @landed f r =>
    cases r with
    | ok v => exact .inr ⟨f, v, rfl, rfl, rfl⟩
    | error e => exact .inl rfl
  | _ => exact .inl rfl

namespace Rehearsal

open LearningClient.Http

variable {c : Client} {call : Call} {p : Option Pause} {a : Option (Outcome Response)}
  {g : Progress × Client}

/-! ## One turn -/

/-- Rights are cached under any name, in the one turn that this takes. -/
theorem pause_of_cacheRights {s : String} {v : SkillRights}
    (suits : ∀ P, p = some P → Suits (.cacheRights s v) P) : p = none := by
  cases p with
  | none => rfl
  | some P => cases suits P rfl

/-- A turn leaves the cache of rights as it was, or it is of a call that caches
some, or it is the answer to a load, which can be read. -/
theorem Turned.rights_cache (turn : Turned c call p a g) (suits : ∀ P, p = some P → Suits call P) :
    g.2.rights.cache = c.rights.cache ∨ ∃ s v, g.2.rights.cache = c.rights.cache.insert s v ∧
      (call = .cacheRights s v ∧ p = none ∨
        ∃ o, call = .loadRights s ∧ a = some o ∧ received o SkillRights.read = .ok v) := by
  cases load : Service.rights.load? call with
  | none =>
    rcases Service.rights_of_touches (turn.touches suits) load with same | ⟨s, v, rfl, stored⟩
    · exact .inl (by rw [same])
    · exact .inr ⟨s, v, by rw [stored]; rfl, .inl ⟨rfl, pause_of_cacheRights suits⟩⟩
  | some loaded =>
    obtain ⟨rfl, _, _⟩ := Service.rights_load? load
    obtain ⟨o, loads⟩ := Service.rights_sound.loads turn suits load
    rcases loads.acts.cache with same | ⟨f, v, leads, yields, landed⟩
    · exact .inl same
    · obtain ⟨m, answer, read⟩ := loads.brings f _ leads yields
      exact .inr ⟨_, v, landed, .inr ⟨m, rfl, answer, read.symm⟩⟩

/-- A turn at a client whose reads of the rights are truthful leaves them so. -/
theorem Turned.rights_misses (turn : Turned c call p a g)
    (suits : ∀ P, p = some P → Suits call P) (truthful : c.rights.misses = 0) :
    g.2.rights.misses = 0 := by
  have turns : ∀ (s : String) (t : LearningClient.Turn SkillRights × Accessor SkillRights),
      t.2.misses = 0 → (c.rightsTurn s t).2.rights.misses = 0 := by
    rintro s ⟨turn, accessor⟩ truthful
    cases turn <;> exact truthful
  cases load : Service.rights.load? call with
  | none =>
    rcases Service.rights_of_touches (turn.touches suits) load with same | ⟨s, v, rfl, stored⟩
    · rw [same, truthful]
    · rw [stored]
      exact truthful
  | some loaded =>
    obtain ⟨rfl, valid, _⟩ := Service.rights_load? load
    cases turn with
    | started =>
      simp only [Client.start, valid, Client.checked]
      exact turns _ _ (Accessor.misses_load truthful _)
    | answered =>
      cases suits _ rfl with
      | loadRights valid => exact truthful
    | woken =>
      cases suits _ rfl with
      | awaitRights valid => exact turns _ _ (Accessor.misses_resume truthful _ _)

/-- A call that goes away leaves what is cached, and how it is read. -/
theorem leave_rights (c : Client) (P : Pause) :
    (leave c P).rights.cache = c.rights.cache ∧ (leave c P).rights.misses = c.rights.misses := by
  unfold leave
  split <;> exact ⟨rfl, rfl⟩

namespace Traffic

/-! ## What the cache holds -/

/-- A step decides what the cache holds of the rights on a skill. -/
inductive Puts (s : String) (x : Traffic) : Step → Option SkillRights → Prop
  /-- A caller has them. -/
  | given {v : SkillRights} : Puts s x (.call (.cacheRights s v)) (some v)
  /-- A load of them is answered. -/
  | loaded {c : OpenCall} {r : Request} {e : Errand} {a : Outcome Response} {v : SkillRights}
      (mem : c ∈ x.calls) (call : c.call = .loadRights s) (pause : c.pause = .request r e)
      (read : received a SkillRights.read = .ok v) : Puts s x (.answer c.id a) (some v)
  /-- The cache loses them. -/
  | lost : Puts s x (.loseRights s) none

/-- A step that is not wear leaves the cache of rights as it was, or puts
rights on a skill into it. -/
theorem Kept.rights_step {x : Traffic} (h : x.Kept) {m : Step} (steady : ¬ m.WearsRights) :
    (x.step m).client.rights.cache = x.client.rights.cache ∨
      ∃ s v, Puts s x m (some v) ∧
        (x.step m).client.rights.cache = x.client.rights.cache.insert s v := by
  have hs := x.stepped m
  generalize x.step m = y at hs
  cases hs with
  | called turn =>
    rcases turn.rights_cache nofun with same | ⟨s, v, stored, ⟨rfl, _⟩ | ⟨_, _, none, _⟩⟩
    · exact .inl same
    · exact .inr ⟨s, v, .given, stored⟩
    · cases none
  | @answered c r e a g mem pause turn =>
    rcases turn.rights_cache (h.suits_at mem pause) with
      same | ⟨s, v, stored, ⟨_, none⟩ | ⟨o, call, answer, read⟩⟩
    · exact .inl same
    · cases none
    · cases answer
      exact .inr ⟨s, v, .loaded mem call pause read, stored⟩
  | @woken c w g mem pause turn =>
    rcases turn.rights_cache (h.suits_at mem pause) with
      same | ⟨s, v, stored, ⟨_, none⟩ | ⟨_, _, none, _⟩⟩
    · exact .inl same
    · cases none
    · cases none
  | @dropped c mem => exact .inl (leave_rights x.client c.pause).1
  | worn worn => exact .inl (by rw [worn.spares steady])

/-- Whether the cache keeps what it is given never changes. -/
theorem Kept.rights_retains {x : Traffic} (h : x.Kept) (m : Step) :
    (x.step m).client.rights.cache.retains = x.client.rights.cache.retains := by
  by_cases steady : m.WearsRights
  · cases m with
    | loseRights s => rfl
    | missRights n => rfl
    | _ => exact absurd steady id
  · rcases h.rights_step steady with same | ⟨s, v, _, stored⟩
    · rw [same]
    · rw [stored, Cache.retains_insert]

/-- Reads are truthful as long as no step says otherwise. -/
theorem Kept.rights_truthful {x : Traffic} (h : x.Kept) {m : Step} (told : ∀ n, m ≠ .missRights n)
    (truthful : x.client.rights.misses = 0) : (x.step m).client.rights.misses = 0 := by
  by_cases steady : m.WearsRights
  · cases m with
    | loseRights s => exact truthful
    | missRights n => exact absurd rfl (told n)
    | _ => exact absurd steady id
  · have hs := x.stepped m
    generalize x.step m = y at hs
    cases hs with
    | called turn => exact turn.rights_misses nofun truthful
    | answered mem pause turn => exact turn.rights_misses (h.suits_at mem pause) truthful
    | woken mem pause turn => exact turn.rights_misses (h.suits_at mem pause) truthful
    | @dropped c mem => exact (leave_rights x.client c.pause).2.trans truthful
    | worn worn =>
      rw [← worn.spares steady] at truthful
      exact truthful

variable {token : Option String} {pages : CacheLimits} {ss : List Step} {s : String}

theorem rights_retains_play (token : Option String) (pages : CacheLimits) (ss : List Step) :
    (play token pages {} ss).client.rights.cache.retains = true := by
  induction ss using List.reverseRecOn with
  | nil => rfl
  | append_singleton ss m ih =>
    rw [play_concat, (kept_play token pages {} ss).rights_retains, ih]

theorem rights_truthful_play (token : Option String) (pages : CacheLimits)
    (told : ∀ n, .missRights n ∉ ss) : (play token pages {} ss).client.rights.misses = 0 := by
  induction ss using List.reverseRecOn with
  | nil => rfl
  | append_singleton ss m ih =>
    simp only [List.mem_append, List.mem_singleton, not_or] at told
    rw [play_concat]
    exact (kept_play token pages {} ss).rights_truthful (fun n => Ne.symm (told n).2)
      (ih fun n => (told n).1)

theorem rights_of_puts {x : Traffic} (h : x.Kept) (retains : x.client.rights.cache.retains = true)
    {m : Step} {w : Option SkillRights} (puts : Puts s x m w) :
    (x.step m).client.rights.cache.get? s = w := by
  cases puts with
  | given => exact Cache.get?_insert_self retains ..
  | @loaded c r e a v mem call pause read =>
    have suits := h.suits c mem
    rw [call, pause] at suits
    rw [h.step_answer mem pause]
    cases suits with
    | loadRights valid =>
      simp only [turned, Client.receive, read]
      exact Cache.get?_insert_self retains ..
  | lost => exact Cache.get?_invalidate_self ..

theorem rights_of_not_puts {x : Traffic} (h : x.Kept) {m : Step} (quiet : ∀ w, ¬ Puts s x m w) :
    (x.step m).client.rights.cache.get? s = x.client.rights.cache.get? s := by
  by_cases steady : m.WearsRights
  · cases m with
    | loseRights t =>
      refine Cache.get?_invalidate_other _ ?_
      rintro rfl
      exact quiet none .lost
    | missRights n => rfl
    | _ => exact absurd steady id
  · rcases h.rights_step steady with same | ⟨t, v, puts, stored⟩
    · rw [same]
    · rw [stored]
      refine Cache.get?_insert_other _ _ ?_
      rintro rfl
      exact quiet _ puts

theorem decided_by_puts (token : Option String) (pages : CacheLimits) (s : String) :
    Decided (play token pages {}) (fun x => x.client.rights.cache.get? s) (Puts s) where
  obeyed puts := by
    rw [play_concat]
    exact rights_of_puts (kept_play ..) (rights_retains_play ..) puts
  kept quiet := by
    rw [play_concat]
    exact rights_of_not_puts (kept_play ..) quiet

/-! ## What is said of it -/

/-- A call that is made now returns at once, and sends nothing. -/
def Returns (x : Traffic) (call : Call) (r : Outcome Reply) : Prop :=
  (x.step (.call call)).log = x.log ++ [.called x.made call, .returned x.made r]

theorem returns_of_start {x : Traffic} {call : Call} {r : Outcome Reply}
    (done : (x.client.start call).1 = .done r) : Returns x call r := by
  rw [Returns, log_of_call, done]
  rfl

/-- What a call returns is one thing. -/
theorem Returns.unique {x : Traffic} {call : Call} {r r' : Outcome Reply} (h : Returns x call r)
    (h' : Returns x call r') : r = r' := by
  have same := List.append_cancel_left (h.symm.trans h')
  simpa using same

theorem returns_areRightsCached (x : Traffic) (s : String) :
    Returns x (.areRightsCached s)
      (.ok (.flag (x.client.rights.cache.get? s).isSome)) := returns_of_start rfl

/-- A load whose name is accepted finds what is there. -/
theorem returns_loadRights {x : Traffic} (truthful : x.client.rights.misses = 0) {v : SkillRights}
    (held : x.client.rights.cache.get? s = some v) (full : s ≠ "") (dot : s ≠ ".")
    (dots : s ≠ "..") : Returns x (.loadRights s) (.ok (.rights v)) := by
  refine returns_of_start ?_
  simp only [Client.start, checkSkillId_of_ne full dot dots, Client.checked,
    Accessor.load_of_held truthful held, Client.rightsTurn]
  rfl

/-- What is cached can be loaded. In every run of a client whose cache of rights
has no limits, with calls of all services in any order and requests answered in
any way, and for every name:

- if the name is said to be cached, some step has been the last to put rights
  under it, and a load, if the name is accepted, returns these rights at once
  and sends nothing;
- it does so right after a caller has cached rights under it;
- if the name is not accepted, a load is refused with the rule that it breaks,
  whatever is cached, and sends nothing. -/
theorem cached_rights_load (token : Option String) (pages : CacheLimits) {ss : List Step}
    (told : ∀ n, .missRights n ∉ ss) (s : String) :
    (Returns (play token pages {} ss) (.areRightsCached s) (.ok (.flag true)) →
      ∃ ss₁ m ss₂ v, ss = ss₁ ++ m :: ss₂ ∧ Puts s (play token pages {} ss₁) m (some v) ∧
        Silent (play token pages {}) (Puts s) (ss₁ ++ [m]) ss₂ ∧
        (s ≠ "" → s ≠ "." → s ≠ ".." →
          Returns (play token pages {} ss) (.loadRights s) (.ok (.rights v)))) ∧
    (∀ v, s ≠ "" → s ≠ "." → s ≠ ".." →
      Returns (play token pages {} (ss ++ [.call (.cacheRights s v)])) (.areRightsCached s)
        (.ok (.flag true)) ∧
      Returns (play token pages {} (ss ++ [.call (.cacheRights s v)])) (.loadRights s)
        (.ok (.rights v))) ∧
    ∀ text, FirstBroken (skillRules s) text →
      Returns (play token pages {} ss) (.loadRights s) (.error (.validation text)) := by
  have decided := decided_by_puts token pages s
  refine ⟨fun flag => ?_, fun v full dot dots => ?_, fun text breach => ?_⟩
  · have known := (returns_areRightsCached (play token pages {} ss) s).unique flag
    obtain ⟨w, held⟩ : ∃ w, (play token pages {} ss).client.rights.cache.get? s = some w :=
      Option.isSome_iff_exists.mp (by simpa using known)
    rcases silent_or_last (play token pages {}) (Puts s) [] ss with
      silent | ⟨ss₁, m, ss₂, v, rfl, puts, silent⟩
    · -- nothing is there before the first step
      cases held.symm.trans (decided.silent silent)
    · obtain rfl := held.symm.trans (decided.last puts silent)
      refine ⟨ss₁, m, ss₂, w, rfl, puts, silent, fun full dot dots => ?_⟩
      exact returns_loadRights (rights_truthful_play token pages told) held full dot dots
  · have held : (play token pages {}
        (ss ++ [.call (.cacheRights s v)])).client.rights.cache.get? s = some v :=
      decided.obeyed .given
    have told : ∀ n, Step.missRights n ∉ ss ++ [.call (.cacheRights s v)] := by
      simpa using told
    have flag := returns_areRightsCached
      (play token pages {} (ss ++ [.call (.cacheRights s v)])) s
    rw [held] at flag
    exact ⟨flag, returns_loadRights (rights_truthful_play token pages told) held full dot dots⟩
  · have broken : FirstBroken (Call.loadRights s).rules text := breach
    refine returns_of_start ?_
    rw [Client.start_of_firstBroken _ broken]

/-- Rights that the backend has not sent. -/
def handed : SkillRights := ⟨"0", true⟩

/-- A load leads for a skill when its rights are cached by a caller. Another
load does not wait for the first one. -/
theorem cached_rights_load_in_flight :
    (∀ n, Step.missRights n ∉ [Step.call (.loadRights "a/b")]) ∧
    Returns (play none {} {} ([.call (.loadRights "a/b")] ++ [.call (.cacheRights "a/b" handed)]))
      (.areRightsCached "a/b") (.ok (.flag true)) ∧
    Returns (play none {} {} ([.call (.loadRights "a/b")] ++ [.call (.cacheRights "a/b" handed)]))
      (.loadRights "a/b") (.ok (.rights handed)) := by
  have told : ∀ n, Step.missRights n ∉ [Step.call (.loadRights "a/b")] := by simp
  have cached := (cached_rights_load none {} told "a/b").2.1 handed (by decide) (by decide)
    (by decide)
  exact ⟨told, cached⟩

/-- That rights are said to be cached is not enough for a load of them: they
can be cached under the empty name, which no load accepts. -/
theorem cached_not_loaded :
    ¬ ∀ (ss : List Step) (s : String), (∀ m ∈ ss, ¬ m.WearsRights) →
      Returns (play none {} {} ss) (.areRightsCached s) (.ok (.flag true)) →
      ∃ v, Returns (play none {} {} ss) (.loadRights s) (.ok (.rights v)) := by
  intro law
  have steady : ∀ m ∈ [Step.call (.cacheRights "" handed)], ¬ m.WearsRights := by
    simp [Step.WearsRights]
  obtain ⟨v, loaded⟩ := law [.call (.cacheRights "" handed)] "" steady rfl
  have refused : Returns (play none {} {} [.call (.cacheRights "" handed)]) (.loadRights "")
      (.error (.validation "Skill id value is expected but is missing")) := rfl
  cases refused.unique loaded

end Traffic

end Rehearsal

end LearningClient
