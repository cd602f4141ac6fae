import LearningClient.Proofs.Traffic.Turns

/-!
# The log and the open calls

In every state that steps lead to, the log agrees with the calls that are
open (`Traffic.Kept`, `Traffic.kept_play`): no number stands for two calls,
an open call has been called and is suspended at what suits it, and what it
has sent so far is the request that is under way, or nothing if it waits. The
one call that sends twice is the creation of a topic, which may have fetched
the token before.

Where only the turn matters, and not whether it is the first of a call or a
later one, a step is one of three things (`Traffic.Moved`): a turn of which the
log says what has led to it (`Traffic.Turning`), the end of a call, or wear.
-/

namespace LearningClient.Rehearsal

open LearningClient LearningClient.Http

namespace Entry

/-- The call that an entry is about. -/
def id : Entry → Nat
  | .called i _ => i
  | .sent i _ => i
  | .answered i _ => i
  | .returned i _ => i

end Entry

theorem id_of_shows {id : Nat} {g : Progress} {e : Entry} (h : e ∈ shows id g) : e.id = id := by
  cases g with
  | done r =>
    rw [List.mem_singleton.mp h]
    rfl
  | sends r f =>
    rw [List.mem_singleton.mp h]
    rfl
  | waits w => exact absurd h List.not_mem_nil

theorem called_notMem_shows {id i : Nat} {g : Progress} {call : Call} :
    .called i call ∉ shows id g := by
  cases g <;> simp [shows]

theorem pause?_of_sent {id i : Nat} {g : Progress} {r : Request} (h : .sent i r ∈ shows id g) :
    ∃ e, pause? g = some (.request r e) := by
  cases g with
  | done v => simp [shows] at h
  | sends s e =>
    cases List.mem_singleton.mp h
    exact ⟨e, rfl⟩
  | waits w => simp [shows] at h

/-- Each entry of a log is what it should be after those before it. -/
def AtEach (P : List Entry → Entry → Prop) (log : List Entry) : Prop :=
  ∀ l e l', log = l ++ e :: l' → P l e

namespace AtEach

variable {P : List Entry → Entry → Prop} {log : List Entry}

theorem nil : AtEach P [] := by
  intro l e l' split
  cases l <;> cases split

theorem concat (h : AtEach P log) {e : Entry} (last : P log e) : AtEach P (log ++ [e]) := by
  intro l d l' split
  rcases l'.eq_nil_or_concat' with rfl | ⟨m, z, rfl⟩
  · obtain ⟨rfl, same⟩ := List.append_inj' split rfl
    rw [← (List.cons.inj same).1]
    exact last
  · rw [← List.cons_append, ← List.append_assoc] at split
    exact h l d m (List.append_inj' split rfl).1

theorem shows {l : List Entry} (h : AtEach P l) {id : Nat} {g : Progress}
    (last : ∀ e ∈ shows id g, P l e) : AtEach P (l ++ shows id g) := by
  cases g with
  | done r => exact h.concat (last _ (List.mem_singleton_self _))
  | sends r e => exact h.concat (last _ (List.mem_singleton_self _))
  | waits w =>
    rw [Rehearsal.shows, List.append_nil]
    exact h

end AtEach

namespace Traffic

theorem requests_append (l l' : List Entry) (id : Nat) :
    requests (l ++ l') id = requests l id ++ requests l' id := List.filterMap_append

theorem requests_of_others {l : List Entry} {id : Nat} (h : ∀ e ∈ l, e.id ≠ id) :
    requests l id = [] := by
  refine List.filterMap_eq_nil_iff.mpr fun e he => ?_
  have ne := h e he
  cases e with
  | sent i r => simpa [Entry.id] using ne
  | _ => rfl

theorem requests_called (i : Nat) (call : Call) (id : Nat) : requests [.called i call] id = [] :=
  rfl

theorem requests_answered (i : Nat) (a : Outcome Response) (id : Nat) :
    requests [.answered i a] id = [] := rfl

/-- What a call has just sent that is suspended. -/
def sends : Pause → List Request
  | .request r _ => [r]
  | .wait _ => []

theorem requests_shows {id : Nat} {g : Progress} {P : Pause} (h : pause? g = some P) :
    requests (shows id g) id = sends P := by
  cases g with
  | done r => cases h
  | sends r e =>
    cases h
    simp [requests, shows, sends]
  | waits w =>
    cases h
    rfl

/-- The log agrees with the calls that are open. -/
structure Kept (x : Traffic) : Prop where
  ids : (x.calls.map (·.id)).Nodup
  /-- Nothing is known of calls that have not been made. -/
  known : ∀ e ∈ x.log, e.id < x.made
  called : ∀ c ∈ x.calls, .called c.id c.call ∈ x.log
  single : ∀ {i call call'}, .called i call ∈ x.log → .called i call' ∈ x.log → call = call'
  suits : ∀ c ∈ x.calls, Suits c.call c.pause
  /-- A call that waits has sent nothing. -/
  silent : ∀ c ∈ x.calls, ∀ w, c.pause = .wait w → requests x.log c.id = []
  /-- A request that is under way is the first that its call has sent, if it
  does not create a topic. -/
  sent : ∀ c ∈ x.calls, ∀ r e, c.pause = .request r e → e ≠ .topic → requests x.log c.id = [r]

namespace Kept

variable {x : Traffic}

theorem eq_of_id (h : x.Kept) {c d : OpenCall} (hc : c ∈ x.calls) (hd : d ∈ x.calls)
    (e : c.id = d.id) : c = d :=
  List.inj_on_of_nodup_map h.ids hc hd e

theorem known_open (h : x.Kept) {c : OpenCall} (hc : c ∈ x.calls) : c.id < x.made :=
  h.known _ (h.called c hc)

theorem open?_self (h : x.Kept) {c : OpenCall} (hc : c ∈ x.calls) : x.open? c.id = some c := by
  cases found : x.open? c.id with
  | none => simpa using List.find?_eq_none.mp found c hc
  | some d =>
    obtain ⟨hd, id⟩ := mem_of_open? found
    rw [h.eq_of_id hd hc id]

/-- What an open call stands at suits it. -/
theorem suits_at (h : x.Kept) {c : OpenCall} (hc : c ∈ x.calls) {P : Pause} (pause : c.pause = P) :
    ∀ Q, some P = some Q → Suits c.call Q := by
  rintro Q ⟨rfl⟩
  exact pause ▸ h.suits c hc

/-- The request of an open call is answered. -/
theorem step_answer (h : x.Kept) {c : OpenCall} (hc : c ∈ x.calls) {r : Request} {e : Errand}
    (pause : c.pause = .request r e) (a : Outcome Response) :
    x.step (.answer c.id a) =
      (x.record (.answered c.id a)).turned c.id c.call (x.client.receive e a) := by
  have found := h.open?_self hc
  obtain ⟨id, call, p⟩ := c
  cases pause
  simp only [step, found]

theorem ids_without (h : x.Kept) (id : Nat) : ((x.without id).map (·.id)).Nodup :=
  h.ids.sublist (List.filter_sublist.map _)

/-- What is recorded of an answer changes nothing. -/
theorem answered (h : x.Kept) {c : OpenCall} (hc : c ∈ x.calls) (a : Outcome Response) :
    (x.record (.answered c.id a)).Kept where
  ids := h.ids
  known e he := by
    rcases List.mem_append.mp he with he | he
    · exact h.known e he
    · rw [List.mem_singleton.mp he]
      exact h.known_open hc
  called d hd := List.mem_append_left _ (h.called d hd)
  single hi hj := by
    simp only [record, List.mem_append, List.mem_singleton, reduceCtorEq, or_false] at hi hj
    exact h.single hi hj
  suits := h.suits
  silent d hd w wait := by
    rw [record, requests_append, h.silent d hd w wait]
    rfl
  sent d hd r e request first := by
    rw [record, requests_append, h.sent d hd r e request first]
    rfl

/-- A call is made, and nothing has been seen of it before. -/
theorem made (h : x.Kept) (call : Call) :
    ({ x with made := x.made + 1 }.record (.called x.made call)).Kept where
  ids := h.ids
  known e he := by
    rcases List.mem_append.mp he with he | he
    · exact Nat.lt_succ_of_lt (h.known e he)
    · rw [List.mem_singleton.mp he]
      exact Nat.lt_succ_self _
  called d hd := List.mem_append_left _ (h.called d hd)
  single := by
    have old : ∀ {i c}, .called i c ∈ x.log → i < x.made := fun hi => h.known _ hi
    intro i c c' hi hj
    simp only [record, List.mem_append, List.mem_singleton, Entry.called.injEq] at hi hj
    rcases hi with hi | ⟨rfl, rfl⟩
    · rcases hj with hj | ⟨rfl, rfl⟩
      · exact h.single hi hj
      · exact absurd (old hi) (Nat.lt_irrefl _)
    · rcases hj with hj | ⟨_, rfl⟩
      · exact absurd (old hj) (Nat.lt_irrefl _)
      · rfl
  suits := h.suits
  silent d hd w wait := by
    rw [record, requests_append, h.silent d hd w wait]
    rfl
  sent d hd r e request first := by
    rw [record, requests_append, h.sent d hd r e request first]
    rfl

/-- A turn of a call that is known keeps the agreement. -/
theorem turned (h : x.Kept) {c : Client} {id : Nat} {call : Call} {p : Option Pause}
    {a : Option (Outcome Response)} {g : Progress × Client} (turn : Turned c call p a g)
    (called : .called id call ∈ x.log) (suits : ∀ P, p = some P → Suits call P)
    (idle : (∀ r e, p ≠ some (.request r e)) → requests x.log id = []) :
    (x.turned id call g).Kept := by
  have log : (x.turned id call g).log = x.log ++ shows id g.1 := rfl
  -- the others have sent what they had sent
  have others : ∀ {d : OpenCall}, d.id ≠ id →
      requests (x.log ++ shows id g.1) d.id = requests x.log d.id := by
    intro d ne
    rw [requests_append, requests_of_others (l := shows id g.1), List.append_nil]
    exact fun e he => id_of_shows he ▸ ne.symm
  refine ⟨?_, ?_, ?_, ?_, ?_, ?_, ?_⟩
  · simp only [Traffic.turned, List.map_append]
    refine List.nodup_append.mpr ⟨h.ids_without id, ?_, ?_⟩
    · cases pause? g.1 <;> simp
    · intro i hi j hj
      obtain ⟨d, hd, rfl⟩ := List.mem_map.mp hi
      cases hp : pause? g.1 with
      | none =>
        rw [hp] at hj
        cases hj
      | some P =>
        rw [hp] at hj
        rw [List.mem_singleton.mp hj]
        exact (mem_without.mp hd).2
  · intro e he
    rw [log] at he
    rcases List.mem_append.mp he with he | he
    · exact h.known e he
    · rw [id_of_shows he]
      exact h.known _ called
  · intro d hd
    rw [log]
    rcases mem_turned.mp hd with ⟨hd, _⟩ | ⟨P, _, rfl⟩
    · exact List.mem_append_left _ (h.called d hd)
    · exact List.mem_append_left _ called
  · intro i c c' hi hj
    rw [log] at hi hj
    simp only [List.mem_append, called_notMem_shows, or_false] at hi hj
    exact h.single hi hj
  · intro d hd
    rcases mem_turned.mp hd with ⟨hd, _⟩ | ⟨P, hP, rfl⟩
    · exact h.suits d hd
    · exact turn.suits suits hP
  · intro d hd w wait
    rw [log]
    rcases mem_turned.mp hd with ⟨hd, ne⟩ | ⟨P, hP, rfl⟩
    · rw [others ne]
      exact h.silent d hd w wait
    · have began : ∀ r e, p ≠ some (.request r e) := by
        rintro r e rfl
        obtain ⟨s, e⟩ := turn.after_request (suits _ rfl) hP
        exact Pause.noConfusion (e.symm.trans wait)
      rw [requests_append, idle began, requests_shows hP, List.nil_append]
      exact congrArg sends wait
  · intro d hd r e request first
    rw [log]
    rcases mem_turned.mp hd with ⟨hd, ne⟩ | ⟨P, hP, rfl⟩
    · rw [others ne]
      exact h.sent d hd r e request first
    · have began : ∀ r e, p ≠ some (.request r e) := by
        rintro r' e' rfl
        obtain ⟨s, topic⟩ := turn.after_request (suits _ rfl) hP
        cases topic.symm.trans request
        exact first rfl
      rw [requests_append, idle began, requests_shows hP, List.nil_append]
      exact congrArg sends request

end Kept

/-! ## Turns at a client whose log agrees -/

/-- A call takes a turn at a client with open calls, after the log has come
to be `l`. What it was suspended at is what it stands at, and the log says
which request has been answered, if one has. -/
structure Turning (x : Traffic) (l : List Entry) (id : Nat) (call : Call) (p : Option Pause)
    (a : Option (Outcome Response)) (g : Progress × Client) : Prop where
  turn : Turned x.client call p a g
  suits : ∀ P, p = some P → Suits call P
  stood : (x.open? id).map (·.pause) = p
  called : .called id call ∈ l
  single : ∀ {other}, .called id other ∈ l → other = call
  grown : l = x.log ∨ ∃ e, l = x.log ++ [e] ∧ ∀ i r, e ≠ .returned i r
  silent : (∀ r e, p ≠ some (.request r e)) → requests l id = []
  answered : ∀ {r e m}, p = some (.request r e) → a = some m → e ≠ .topic →
    l = x.log ++ [.answered id m] ∧ requests x.log id = [r]

/-- A step is a turn of a call. -/
inductive Takes (x : Traffic) : Step → Nat → Call → Prop
  | made {call : Call} : Takes x (.call call) x.made call
  | answered {c : OpenCall} {a : Outcome Response} (mem : c ∈ x.calls) :
      Takes x (.answer c.id a) c.id c.call
  | woken {c : OpenCall} {w : Wait} (mem : c ∈ x.calls) (pause : c.pause = .wait w) :
      Takes x (.wake c.id) c.id c.call

/-- What a step can be when the log agrees with the open calls. -/
inductive Moved (x : Traffic) : Step → Traffic → Prop
  | turned {s : Step} {l : List Entry} {made id : Nat} {call : Call} {p : Option Pause}
      {a : Option (Outcome Response)} {g : Progress × Client}
      (kept : Kept { x with log := l, made }) (takes : x.Takes s id call)
      (turning : x.Turning l id call p a g) :
      Moved x s ({ x with log := l, made }.turned id call g)
  | dropped {c : OpenCall} (mem : c ∈ x.calls) :
      Moved x (.drop c.id) { x with client := leave x.client c.pause, calls := x.without c.id }
  | worn {s : Step} {c : Client} (worn : Worn s x.client c) : Moved x s { x with client := c }

/-- The number of the next call is new. -/
theorem Kept.open?_made {x : Traffic} (h : x.Kept) : x.open? x.made = none := by
  cases found : x.open? x.made with
  | none => rfl
  | some c =>
    obtain ⟨hc, id⟩ := mem_of_open? found
    exact absurd (h.known_open hc) (by rw [id]; exact Nat.lt_irrefl _)

theorem Kept.moved {x : Traffic} (h : x.Kept) (s : Step) : x.Moved s (x.step s) := by
  have hs := x.stepped s
  generalize x.step s = y at hs
  cases hs with
  | @called call g turn =>
    have called : .called x.made call ∈ x.log ++ [.called x.made call] :=
      List.mem_append_right _ (List.mem_singleton_self _)
    refine .turned (h.made call) .made ⟨turn, nofun, ?_, called,
      fun other => (h.made call).single other called, .inr ⟨_, rfl, nofun⟩, fun _ => ?_, nofun⟩
    · rw [h.open?_made]
      rfl
    · rw [requests_append, requests_called, List.append_nil]
      exact requests_of_others fun e he => Nat.ne_of_lt (h.known e he)
  | @answered c r e a g mem pause turn =>
    have called : .called c.id c.call ∈ x.log ++ [.answered c.id a] :=
      List.mem_append_left _ (h.called c mem)
    refine .turned (h.answered mem a) (.answered mem) ⟨turn, h.suits_at mem pause, ?_, called,
      fun other => (h.answered mem a).single other called, .inr ⟨_, rfl, nofun⟩,
      fun none => ?_, ?_⟩
    · rw [h.open?_self mem, ← pause]
      rfl
    · exact absurd rfl (none r e)
    · rintro r e m ⟨⟩ ⟨⟩ first
      exact ⟨rfl, h.sent c mem _ _ pause first⟩
  | @woken c w g mem pause turn =>
    have called := h.called c mem
    refine .turned h (.woken mem pause) ⟨turn, h.suits_at mem pause, ?_, called,
      fun other => h.single other called, .inl rfl, fun _ => h.silent c mem w pause, nofun⟩
    rw [h.open?_self mem, ← pause]
    rfl
  | dropped mem => exact .dropped mem
  | worn worn => exact .worn worn

/-- Every step keeps the agreement. -/
theorem Kept.step {x : Traffic} (h : x.Kept) (s : Step) : (x.step s).Kept := by
  have moved := h.moved s
  generalize x.step s = y at moved
  cases moved with
  | turned kept takes turning =>
    exact kept.turned turning.turn turning.called turning.suits turning.silent
  | @dropped c mem =>
    exact
      { ids := h.ids_without c.id
        known := h.known
        called := fun d hd => h.called d (mem_without.mp hd).1
        single := h.single
        suits := fun d hd => h.suits d (mem_without.mp hd).1
        silent := fun d hd => h.silent d (mem_without.mp hd).1
        sent := fun d hd => h.sent d (mem_without.mp hd).1 }
  | worn worn => exact ⟨h.ids, h.known, h.called, h.single, h.suits, h.silent, h.sent⟩

/-! ## Runs -/

/-- Nobody has called. -/
theorem kept_of_nobody (c : Client) : Kept { client := c } where
  ids := List.nodup_nil
  known _ he := absurd he List.not_mem_nil
  called _ hc := absurd hc List.not_mem_nil
  single hi := absurd hi List.not_mem_nil
  suits _ hc := absurd hc List.not_mem_nil
  silent _ hc := absurd hc List.not_mem_nil
  sent _ hc := absurd hc List.not_mem_nil

theorem Kept.steps {x : Traffic} (h : x.Kept) (ss : List Step) : (x.steps ss).Kept := by
  induction ss using List.reverseRecOn with
  | nil => exact h
  | append_singleton ss s ih =>
    rw [steps_concat]
    exact ih.step s

/-- Whatever steps are taken, the log agrees with the open calls after
them. -/
theorem kept_play (token : Option String) (pages rights : CacheLimits) (ss : List Step) :
    (play token pages rights ss).Kept := (kept_of_nobody _).steps ss

end Traffic

end LearningClient.Rehearsal
