import LearningClient.Proofs.Store.Places
import LearningClient.Proofs.Traffic.Kept

/-!
# The services that load through an accessor

Pages and rights are loaded in the same way, each through an accessor of its
own. A `Service` is what tells the two apart: the accessor, which calls load,
and for which key and with which request, how an answer is read, and where a
call that is suspended stands. `Service.Sound` is what the laws of loads need
to know of a service, one field for each way in which its accessor is
touched; `pages_sound` and `rights_sound` are the only places at which turns
of the client are opened up for it.
-/

namespace LearningClient.Rehearsal

open LearningClient LearningClient.Http LearningClient.Json

/-- A service of a client that loads through an accessor. -/
structure Service (V : Type) where
  accessor : Client → Accessor V
  read : Reader V
  reply : V → Reply
  /-- Where a call that is suspended stands at the accessor. -/
  place : Pause → Place
  /-- The key and the request of a call that loads, if it passes its rules. -/
  load? : Call → Option (String × Request)
  /-- What a call puts into the cache, and for which key. -/
  stores? : Call → Option (String × V)

namespace Service

variable {V : Type}

/-- Where a call stands that may be suspended. -/
def placed (S : Service V) (p : Option Pause) : Place := (p.map S.place).getD .away

/-- Pages of questions. -/
def pages : Service QuestionBatch where
  accessor := Client.pages
  read := QuestionBatch.read
  reply b := .questions b.questions
  place
    | .request _ (.pageFlight q f) => .leads q.cacheKey f
    | .wait (.page q f) => .waits q.cacheKey f
    | _ => .away
  load?
    | .loadQuestions s n cursor =>
      match QuestionQuery.ofTexts s n with
      | .ok q =>
        let q := q.startingAt (cursor.getD "")
        some (q.cacheKey, q.request)
      | .error _ => none
    | _ => none
  stores? _ := none

/-- Rights on skills. -/
def rights : Service SkillRights where
  accessor := Client.rights
  read := SkillRights.read
  reply := .rights
  place
    | .request _ (.rightsFlight s f) => .leads s f
    | .wait (.rights s f) => .waits s f
    | _ => .away
  load?
    | .loadRights s =>
      match checkSkillId s with
      | .ok s => some (s, rightsRequest s)
      | .error _ => none
    | _ => none
  stores?
    | .cacheRights s v => some (s, v)
    | _ => none

/-- A turn of a call that loads for a key: what it does at the accessor, and
what its result is, if the turn is its last. A result that it brings as a
leader is what the answer says. -/
structure Loads (S : Service V) (c : Client) (key : String) (p : Option Pause)
    (a : Option (Outcome Response)) (g : Progress × Client) (o : Option (Outcome V)) : Prop where
  acts : (S.accessor c).Acts key (S.placed p) (S.placed (pause? g.1)) o (S.accessor g.2)
  ends : ∀ r, g.1 = .done r → ∃ v, o = some v ∧ r = v.map S.reply
  brings : ∀ f v, S.placed p = .leads key f → o = some v →
    ∃ m, a = some m ∧ v = received m S.read

/-- What the laws of loads need to know of a service. -/
structure Sound (S : Service V) : Prop where
  /-- Whoever stands somewhere at the accessor loads. -/
  away : ∀ {call P}, Suits call P → S.load? call = none → S.place P = .away
  /-- Whoever leads has its request under way. -/
  under_way : ∀ {call P key request k f}, Suits call P → S.load? call = some (key, request) →
    S.place P = .leads k f → ∃ e, P = .request request e ∧ e ≠ .topic
  loads : ∀ {c call p a g key request}, Turned c call p a g → (∀ P, p = some P → Suits call P) →
    S.load? call = some (key, request) → ∃ o, S.Loads c key p a g o
  /-- Other calls leave the accessor alone, or put something into its cache. -/
  others : ∀ {c c' call p a}, Touches c call p a c' → S.load? call = none →
    S.accessor c' = S.accessor c ∨
      ∃ key v, S.stores? call = some (key, v) ∧
        S.accessor c' = (S.accessor c).cacheResource key v
  /-- A call that goes away leaves its place. -/
  leaves : ∀ {c call P key request}, Suits call P → S.load? call = some (key, request) →
    (S.accessor c).Acts key (S.place P) .away none (S.accessor (leave c P))
  wears : ∀ {s c c'}, Worn s c c' → (S.accessor c').pending = (S.accessor c).pending ∧
    (S.accessor c').flights = (S.accessor c).flights ∧
    ∀ k v, (S.accessor c').cache.get? k = some v → (S.accessor c).cache.get? k = some v

/-! ## Pages -/

theorem pages_load? {call : Call} {key : String} {request : Request}
    (h : pages.load? call = some (key, request)) :
    ∃ s n cursor q, call = .loadQuestions s n cursor ∧ QuestionQuery.ofTexts s n = .ok q ∧
      key = (q.startingAt (cursor.getD "")).cacheKey ∧
      request = (q.startingAt (cursor.getD "")).request := by
  cases call with
  | loadQuestions s n cursor =>
    simp only [pages] at h
    split at h
    · rename_i q valid
      cases h
      exact ⟨s, n, cursor, q, rfl, valid, rfl, rfl⟩
    · cases h
  | _ => cases h

theorem pages_load?_of_valid {s n : String} {cursor : Option String} {q : QuestionQuery}
    (valid : QuestionQuery.ofTexts s n = .ok q) :
    pages.load? (.loadQuestions s n cursor) =
      some ((q.startingAt (cursor.getD "")).cacheKey, (q.startingAt (cursor.getD "")).request) := by
  simp only [pages, valid]

theorem pageTurn_loads {c : Client} {q : QuestionQuery} {p : Option Pause}
    {t : Turn QuestionBatch × Accessor QuestionBatch}
    (acts : c.pages.Acts q.cacheKey (pages.placed p) (t.1.place q.cacheKey) t.1.result? t.2)
    (idle : ∀ f, pages.placed p ≠ .leads q.cacheKey f) :
    pages.Loads c q.cacheKey p none (c.pageTurn q t) t.1.result? := by
  obtain ⟨turn, accessor⟩ := t
  refine ⟨?_, fun r done => ?_, fun f v leads => absurd leads (idle f)⟩
  · cases turn <;> exact acts
  · cases turn with
    | answered v =>
      cases done
      exact ⟨v, rfl, rfl⟩
    | waits f => cases done
    | leads f => cases done

/-- Everyone else leaves the pages alone. -/
theorem pages_of_touches {c c' : Client} {call : Call} {p : Option Pause}
    {a : Option (Outcome Response)} (touches : Touches c call p a c')
    (other : pages.load? call = none) : c'.pages = c.pages := by
  cases touches with
  | pages valid accessor =>
    rw [pages_load?_of_valid valid] at other
    cases other
  | remembered read =>
    unfold Client.remember
    split <;> rfl
  | _ => rfl

theorem pages_sound : pages.Sound where
  away suits other := by
    cases suits with
    | loadPage valid =>
      rw [pages_load?_of_valid valid] at other
      cases other
    | awaitPage valid =>
      rw [pages_load?_of_valid valid] at other
      cases other
    | _ => rfl
  under_way suits load leads := by
    obtain ⟨s, n, cursor, q, rfl, valid, rfl, rfl⟩ := pages_load? load
    cases suits with
    | loadPage valid' =>
      cases valid.symm.trans valid'
      exact ⟨_, rfl, fun topic => by cases topic⟩
    | awaitPage valid' => cases leads
  loads {c call p a g key request} turn suits load := by
    obtain ⟨s, n, cursor, q, rfl, valid, rfl, rfl⟩ := pages_load? load
    cases turn with
    | started =>
      simp only [Client.start, valid, Client.checked]
      exact ⟨_, pageTurn_loads (Accessor.load_acts ..) fun f leads => by cases leads⟩
    | answered =>
      cases suits _ rfl with
      | loadPage valid' =>
        cases valid.symm.trans valid'
        refine ⟨_, .landed, fun r done => ?_, fun f v _ brought => ?_⟩
        · cases done
          exact ⟨_, rfl, rfl⟩
        · exact ⟨_, rfl, (Option.some.inj brought).symm⟩
    | woken =>
      cases suits _ rfl with
      | awaitPage valid' =>
        cases valid.symm.trans valid'
        exact ⟨_, pageTurn_loads (Accessor.resume_acts ..) fun f leads => by cases leads⟩
  others touches other := .inl (pages_of_touches touches other)
  leaves suits load := by
    obtain ⟨s, n, cursor, q, rfl, valid, rfl, rfl⟩ := pages_load? load
    cases suits with
    | loadPage valid' =>
      cases valid.symm.trans valid'
      exact .abandoned
    | awaitPage valid' =>
      cases valid.symm.trans valid'
      exact .left
  wears worn := ⟨worn.pages.1, worn.pages.2, fun _ _ => worn.page⟩

/-! ## Rights -/

theorem rights_load? {call : Call} {key : String} {request : Request}
    (h : rights.load? call = some (key, request)) :
    call = .loadRights key ∧ checkSkillId key = .ok key ∧ request = rightsRequest key := by
  cases call with
  | loadRights s =>
    simp only [rights] at h
    split at h
    · rename_i t valid
      obtain rfl := checkSkillId_eq valid
      cases h
      exact ⟨rfl, valid, rfl⟩
    · cases h
  | _ => cases h

theorem rights_load?_of_valid {s : String} (valid : checkSkillId s = .ok s) :
    rights.load? (.loadRights s) = some (s, rightsRequest s) := by
  simp only [rights, valid]

theorem rightsTurn_loads {c : Client} {s : String} {p : Option Pause}
    {t : Turn SkillRights × Accessor SkillRights}
    (acts : c.rights.Acts s (rights.placed p) (t.1.place s) t.1.result? t.2)
    (idle : ∀ f, rights.placed p ≠ .leads s f) :
    rights.Loads c s p none (c.rightsTurn s t) t.1.result? := by
  obtain ⟨turn, accessor⟩ := t
  refine ⟨?_, fun r done => ?_, fun f v leads => absurd leads (idle f)⟩
  · cases turn <;> exact acts
  · cases turn with
    | answered v =>
      cases done
      exact ⟨v, rfl, rfl⟩
    | waits f => cases done
    | leads f => cases done

/-- Everyone else leaves the rights alone, or caches some. -/
theorem rights_of_touches {c c' : Client} {call : Call} {p : Option Pause}
    {a : Option (Outcome Response)} (touches : Touches c call p a c')
    (other : rights.load? call = none) :
    c'.rights = c.rights ∨
      ∃ s v, call = .cacheRights s v ∧ c'.rights = c.rights.cacheResource s v := by
  cases touches with
  | rights valid accessor =>
    rw [rights_load?_of_valid valid] at other
    cases other
  | seeded => exact .inr ⟨_, _, rfl, rfl⟩
  | remembered read =>
    unfold Client.remember
    split <;> exact .inl rfl
  | _ => exact .inl rfl

theorem rights_sound : rights.Sound where
  away suits other := by
    cases suits with
    | loadRights valid =>
      rw [rights_load?_of_valid valid] at other
      cases other
    | awaitRights valid =>
      rw [rights_load?_of_valid valid] at other
      cases other
    | _ => rfl
  under_way suits load leads := by
    obtain ⟨rfl, valid, rfl⟩ := rights_load? load
    cases suits with
    | loadRights valid => exact ⟨_, rfl, fun topic => by cases topic⟩
    | awaitRights valid => cases leads
  loads {c call p a g key request} turn suits load := by
    obtain ⟨rfl, valid, rfl⟩ := rights_load? load
    cases turn with
    | started =>
      simp only [Client.start, valid, Client.checked]
      exact ⟨_, rightsTurn_loads (Accessor.load_acts ..) fun f leads => by cases leads⟩
    | answered =>
      cases suits _ rfl with
      | loadRights valid =>
        refine ⟨_, .landed, fun r done => ?_, fun f v _ brought => ?_⟩
        · cases done
          exact ⟨_, rfl, rfl⟩
        · exact ⟨_, rfl, (Option.some.inj brought).symm⟩
    | woken =>
      cases suits _ rfl with
      | awaitRights valid =>
        exact ⟨_, rightsTurn_loads (Accessor.resume_acts ..) fun f leads => by cases leads⟩
  others touches other := by
    rcases rights_of_touches touches other with same | ⟨s, v, rfl, same⟩
    · exact .inl same
    · exact .inr ⟨s, v, rfl, same⟩
  leaves suits load := by
    obtain ⟨rfl, valid, rfl⟩ := rights_load? load
    cases suits with
    | loadRights valid => exact .abandoned
    | awaitRights valid => exact .left
  wears worn := ⟨worn.rights.1, worn.rights.2, fun _ _ => worn.right⟩

end Service

end LearningClient.Rehearsal
