import LearningClient.Proofs.Client.Rules
import LearningClient.Proofs.Store.Sealed
import LearningClient.Proofs.Traffic.Origins

/-!
# Pages that are loaded again

Once a load of a page has been answered with what can be read as a page
(`Traffic.Decoded`), the page is settled: its key is sealed
(`Accessor.Sealed`), so nobody sends for it any more, and every load says the
same. What fetches of the same page return meanwhile, which may be newer, goes
past the cache.

The page is what the parameters name (`QuestionQuery.Named`), not how they are
spelled. The invariant of a run is `Traffic.Repeats`; a step either lets a
caller act at the accessor of pages or is wear (`Traffic.PagesAfter`), and
wear takes a page only if the step says so.
-/

namespace LearningClient.Rehearsal

open LearningClient LearningClient.Http

variable {page : QuestionQuery}

/-- The request of a load of a page is on the errand of that page. -/
theorem errand_of_load {s n : String} {cursor : Option String} (named : page.Named s n cursor)
    {r : Request} {e : Errand} (suits : Suits (.loadQuestions s n cursor) (.request r e)) :
    ∃ f, e = .pageFlight page f := by
  obtain ⟨q, valid, rfl⟩ := QuestionQuery.named_iff.mp named
  cases suits with
  | loadPage valid' =>
    cases valid.symm.trans valid'
    exact ⟨_, rfl⟩

namespace Traffic

/-! ## What the log says of a page -/

/-- A load of a page was answered after `before`, and the answer can be read
as this page. -/
inductive Decoded (page : QuestionQuery) (l before : List Entry) (b : QuestionBatch) : Prop
  | mk {i : Nat} {s n : String} {cursor : Option String} {a : Outcome Response}
      {after : List Entry} (came : l = before ++ .answered i a :: after)
      (called : .called i (.loadQuestions s n cursor) ∈ before)
      (named : page.Named s n cursor) (read : received a QuestionBatch.read = .ok b)

/-- A load of a page has returned this as a success. -/
inductive Loaded (page : QuestionQuery) (l : List Entry) (v : Reply) : Prop
  | mk {i : Nat} {s n : String} {cursor : Option String}
      (called : .called i (.loadQuestions s n cursor) ∈ l) (named : page.Named s n cursor)
      (returned : .returned i (.ok v) ∈ l)

/-- If an entry says that a load of a page sends, the page had not been decoded
before. -/
def Quiet (page : QuestionQuery) (l : List Entry) (e : Entry) : Prop :=
  ∀ i r s n cursor, e = .sent i r → .called i (.loadQuestions s n cursor) ∈ l →
    page.Named s n cursor → ∀ before b, ¬ Decoded page l before b

variable {l before : List Entry} {b : QuestionBatch}

theorem Decoded.append (h : Decoded page l before b) (l' : List Entry) :
    Decoded page (l ++ l') before b := by
  obtain ⟨rfl, called, named, read⟩ := h
  exact .mk (by rw [List.append_assoc, List.cons_append]) called named read

theorem not_decoded_nil : ¬ Decoded page [] before b := by
  rintro ⟨came, _, _, _⟩
  cases before <;> cases came

/-- What is decoded with one more entry has been decoded before, or this is
the answer. -/
theorem Decoded.of_concat {e : Entry} (h : Decoded page (l ++ [e]) before b) :
    Decoded page l before b ∨ before = l ∧ ∃ i s n cursor a, e = .answered i a ∧
      .called i (.loadQuestions s n cursor) ∈ l ∧ page.Named s n cursor ∧
      received a QuestionBatch.read = .ok b := by
  cases h with
  | @mk i s n cursor a after came called named read =>
    rcases after.eq_nil_or_concat' with rfl | ⟨m, z, rfl⟩
    · obtain ⟨rfl, same⟩ := List.append_inj' came rfl
      exact .inr ⟨rfl, i, s, n, cursor, a, (List.cons.inj same).1, called, named, read⟩
    · rw [← List.cons_append, ← List.append_assoc] at came
      exact .inl (.mk (List.append_inj' came rfl).1 called named read)

/-- Nothing is decoded by an entry that is no answer. -/
theorem Decoded.of_concat_ne {e : Entry} (h : Decoded page (l ++ [e]) before b)
    (other : ∀ i a, e ≠ .answered i a) : Decoded page l before b := by
  rcases h.of_concat with old | ⟨_, i, _, _, _, a, answer, _⟩
  · exact old
  · exact absurd answer (other i a)

theorem Decoded.of_shows {id : Nat} {g : Progress} (h : Decoded page (l ++ shows id g) before b) :
    Decoded page l before b := by
  cases g with
  | done r => exact h.of_concat_ne nofun
  | sends r e => exact h.of_concat_ne nofun
  | waits w => rwa [shows, List.append_nil] at h

/-! ## The pages after a step -/

/-- What a step does to the pages that are kept: a caller acts, or there is
wear at most. -/
inductive PagesAfter (x : Traffic) (s : Step) (a : Accessor QuestionBatch) : Prop
  | acts {key : String} {i : Nat} {p : Place} {o : Option (Outcome QuestionBatch)}
      (acts : x.client.pages.Acts key (Service.pages.places x i) p o a)
  | wear (pending : a.pending = x.client.pages.pending)
      (retains : a.cache.retains = x.client.pages.cache.retains)
      (stays : ∀ {k}, s ≠ .losePage k → a.cache.get? k = x.client.pages.cache.get? k)

theorem PagesAfter.same {x : Traffic} {s : Step} {a : Accessor QuestionBatch}
    (same : a = x.client.pages) : PagesAfter x s a :=
  .wear (by rw [same]) (by rw [same]) fun _ => by rw [same]

theorem Kept.pagesAfter {x : Traffic} (h : x.Kept) (s : Step) :
    PagesAfter x s (x.step s).client.pages := by
  have moved := h.moved s
  generalize x.step s = y at moved
  cases moved with
  | @turned s l made id call p a g kept takes turning =>
    have stood : Service.pages.places x id = Service.pages.placed p :=
      congrArg Service.pages.placed turning.stood
    cases load : Service.pages.load? call with
    | none => exact .same (Service.pages_of_touches (turning.turn.touches turning.suits) load)
    | some loaded =>
      obtain ⟨o, acts, _, _⟩ := Service.pages_sound.loads turning.turn turning.suits load
      exact .acts (stood ▸ acts)
  | @dropped c mem =>
    cases load : Service.pages.load? c.call with
    | none => exact .same (Service.pages_of_touches (leave_touches (h.suits c mem)) load)
    | some loaded =>
      have acts := Service.pages_sound.leaves (c := x.client) (h.suits c mem) load
      exact .acts (Service.places_open h mem ▸ acts)
  | worn worn => exact .wear worn.pages.1 worn.retains worn.stays

theorem PagesAfter.sealed {x : Traffic} {s : Step} {a : Accessor QuestionBatch}
    (h : PagesAfter x s a) (served : Service.pages.Served x) {key : String}
    (stays : s ≠ .losePage key) (sealed : x.client.pages.Sealed key b) : a.Sealed key b := by
  cases h with
  | acts acts => exact acts.sealed served.manned sealed
  | wear pending _ same => exact sealed.congr pending (same stays)

theorem PagesAfter.retains {x : Traffic} {s : Step} {a : Accessor QuestionBatch}
    (h : PagesAfter x s a) : a.cache.retains = x.client.pages.cache.retains := by
  cases h with
  | acts acts => exact acts.retains
  | wear _ retains _ => exact retains

/-- What is decoded after a step has been decoded before, or the step lands
the flight of its leader. -/
theorem Kept.decoded_step {x : Traffic} (h : x.Kept) {s : Step}
    (decoded : Decoded page (x.step s).log before b) :
    Decoded page x.log before b ∨ before = x.log ∧ ∃ i f,
      Service.pages.places x i = .leads page.cacheKey f ∧
      (x.step s).client.pages = x.client.pages.land page.cacheKey f (.ok b) := by
  have hs := x.stepped s
  generalize hy : x.step s = y at hs decoded
  cases hs with
  | called turn => exact .inl (decoded.of_shows.of_concat_ne nofun)
  | @answered c r e a g mem pause turn =>
    rcases decoded.of_shows.of_concat with old | ⟨rfl, i, s, n, cursor, m, e, called, named, read⟩
    · exact .inl old
    · cases e
      have call := h.single (h.called c mem) called
      have suits := h.suits c mem
      rw [call, pause] at suits
      obtain ⟨f, rfl⟩ := errand_of_load named suits
      refine .inr ⟨rfl, c.id, f, ?_, ?_⟩
      · rw [Service.places_open h mem, pause]
        rfl
      · rw [← hy, h.step_answer mem pause]
        simp only [Traffic.turned, Client.receive, read]
  | woken mem pause turn => exact .inl decoded.of_shows
  | dropped mem => exact .inl decoded
  | worn worn => exact .inl decoded

/-! ## Runs -/

/-- What holds of a page in a run whose cache keeps it: once it has been
decoded, its key is sealed, it is never decoded again, and no load of it sends
after that. -/
structure Repeats (page : QuestionQuery) (x : Traffic) : Prop where
  retains : x.client.pages.cache.retains = true
  sealed : ∀ {before b}, Decoded page x.log before b →
    x.client.pages.Sealed page.cacheKey b
  once : ∀ {before before' b b'}, Decoded page x.log before b → Decoded page x.log before' b' →
    before = before'
  quiet : AtEach (Quiet page) x.log

/-- A turn after which the key of a page that has been decoded is sealed does
not end with a load of the page sending. -/
theorem quiet_turned {y : Traffic} (kept : y.Kept) (served : Service.pages.Served y)
    (sealed : ∀ {before b}, Decoded page y.log before b → y.client.pages.Sealed page.cacheKey b)
    {id : Nat} {call : Call} {g : Progress} (log : y.log = l ++ shows id g)
    (calls : ∀ P, pause? g = some P → ⟨id, call, P⟩ ∈ y.calls) (h : AtEach (Quiet page) l) :
    AtEach (Quiet page) y.log := by
  have last : ∀ e ∈ shows id g, Quiet page l e := by
    rintro e shown i r s n cursor rfl called named before b decoded
    obtain rfl : i = id := id_of_shows shown
    obtain ⟨e, pause⟩ := pause?_of_sent shown
    -- the load that sends leads a flight, so its key is not free
    have mem := calls _ pause
    have same := kept.single (kept.called _ mem)
      (by rw [log]; exact List.mem_append_left _ called)
    have suits := kept.suits _ mem
    simp only at same suits
    rw [same] at suits
    obtain ⟨f, rfl⟩ := errand_of_load named suits
    have place := Service.places_open (S := Service.pages) kept mem
    exact (sealed (by rw [log]; exact decoded.append _)).not_led served.manned place
  rw [log]
  exact h.shows last

/-- If the key of a page that has been decoded is sealed after a step, no load
of the page sends in it. -/
theorem Kept.quiet_step {x : Traffic} (h : x.Kept) (served : Service.pages.Served x)
    (quiet : AtEach (Quiet page) x.log) {s : Step}
    (sealed : ∀ {before b}, Decoded page (x.step s).log before b →
      (x.step s).client.pages.Sealed page.cacheKey b) :
    AtEach (Quiet page) (x.step s).log := by
  have kept' := h.step s
  have served' := served.step Service.pages_sound h s
  have other : ∀ {e}, (∀ i r, e ≠ .sent i r) → AtEach (Quiet page) (x.log ++ [e]) :=
    fun none => quiet.concat fun i r _ _ _ sent => absurd sent (none i r)
  have hs := x.stepped s
  generalize x.step s = y at *
  cases hs with
  | called turn =>
    exact quiet_turned kept' served' sealed rfl
      (fun P pause => mem_turned.mpr (.inr ⟨P, pause, rfl⟩)) (other nofun)
  | answered mem pause turn =>
    exact quiet_turned kept' served' sealed rfl
      (fun P pause => mem_turned.mpr (.inr ⟨P, pause, rfl⟩)) (other nofun)
  | woken mem pause turn =>
    exact quiet_turned kept' served' sealed rfl
      (fun P pause => mem_turned.mpr (.inr ⟨P, pause, rfl⟩)) quiet
  | dropped mem => exact quiet
  | worn worn => exact quiet

/-- Every step keeps it, unless the cache loses the page. -/
theorem Repeats.step {x : Traffic} (kept : x.Kept) (served : Service.pages.Served x)
    (h : Repeats page x) {s : Step} (stays : s ≠ .losePage page.cacheKey) :
    Repeats page (x.step s) := by
  have after := kept.pagesAfter s
  have sealed : ∀ {before b}, Decoded page (x.step s).log before b →
      (x.step s).client.pages.Sealed page.cacheKey b := by
    intro before b decoded
    rcases kept.decoded_step decoded with old | ⟨_, i, f, _, landed⟩
    · exact after.sealed served stays (h.sealed old)
    · rw [landed]
      exact Accessor.sealed_land h.retains ..
  have fresh : ∀ {i f before b}, Service.pages.places x i = .leads page.cacheKey f →
      ¬ Decoded page x.log before b :=
    fun leads old => (h.sealed old).not_led served.manned leads
  refine ⟨after.retains.trans h.retains, sealed, fun {m m' b b'} one two => ?_, ?_⟩
  · rcases kept.decoded_step one with old | ⟨rfl, _, _, leads, _⟩
    · rcases kept.decoded_step two with old' | ⟨rfl, _, _, leads, _⟩
      · exact h.once old old'
      · exact absurd old (fresh leads)
    · rcases kept.decoded_step two with old' | ⟨rfl, _⟩
      · exact absurd old' (fresh leads)
      · rfl
  · exact kept.quiet_step served h.quiet sealed

theorem repeats_play (token : Option String) {pages : CacheLimits} (rights : CacheLimits)
    (retains : pages.retains = true) {ss : List Step} (stays : .losePage page.cacheKey ∉ ss) :
    Repeats page (play token pages rights ss) := by
  induction ss using List.reverseRecOn with
  | nil =>
    exact ⟨retains, fun decoded => absurd decoded not_decoded_nil,
      fun decoded => absurd decoded not_decoded_nil, .nil⟩
  | append_singleton ss s ih =>
    rw [List.mem_append, List.mem_singleton, not_or] at stays
    rw [play_concat]
    exact (ih stays.1).step (kept_play token pages rights ss) (.play Service.pages_sound rfl ss)
      (Ne.symm stays.2)

/-! ## What loads say -/

theorem log_of_call (x : Traffic) (call : Call) :
    (x.step (.call call)).log =
      x.log ++ .called x.made call :: shows x.made (x.client.start call).1 := by
  simp only [step, turned, record, List.append_assoc]
  rfl

/-- A load that succeeds says what an answer to a load of the same page
says. -/
theorem Loaded.decoded {x : Traffic} (kept : x.Kept) (honest : Honest x.log) {v : Reply}
    (h : Loaded page x.log v) :
    ∃ before b, Decoded page x.log before b ∧ v = .questions b.questions := by
  cases h with
  | @mk i s n cursor called named returned =>
    obtain ⟨l, l', split⟩ := List.append_of_mem returned
    obtain ⟨⟨call, known⟩, stems⟩ := honest l i _ l' split
    have same := kept.single (split ▸ List.mem_append_left _ known) called
    have stem := stems _ (same ▸ known) (.loadPage s n cursor)
    obtain ⟨q, valid, rfl⟩ := QuestionQuery.named_iff.mp named
    generalize result : (.ok v : Outcome Reply) = r at stem
    cases stem with
    | refused => cases result
    | @loadedPage _ _ n' _ cursor' q' j before a valid' asked agrees answered _ =>
      cases valid.symm.trans valid'
      obtain ⟨⟨after, rfl⟩, _⟩ := answered
      cases read : received a QuestionBatch.read with
      | error e =>
        rw [read] at result
        cases result
      | ok b =>
        rw [read] at result
        cases result
        have named' := QuestionQuery.named_iff.mpr ⟨q, agrees.1, by rw [agrees.2]⟩
        exact ⟨before, b, split ▸ (Decoded.mk rfl asked named' read).append _, rfl⟩

section
variable {c : Client} {s n : String} {cursor : Option String}

theorem start_load_of_sealed (sealed : c.pages.Sealed page.cacheKey b)
    (named : page.Named s n cursor) :
    (c.start (.loadQuestions s n cursor)).1 = .done (.ok (.questions b.questions)) := by
  obtain ⟨q, valid, rfl⟩ := QuestionQuery.named_iff.mp named
  have told := sealed.answered (Accessor.load_asked c.pages _)
  simp only [Client.start, valid, Client.checked]
  generalize c.pages.load _ = t at told
  obtain ⟨turn, accessor⟩ := t
  obtain rfl := told
  rfl

theorem start_isCached_of_sealed (sealed : c.pages.Sealed page.cacheKey b)
    (named : page.Named s n cursor) :
    (c.start (.isPageCached s n cursor)).1 = .done (.ok (.flag true)) := by
  obtain ⟨q, valid, rfl⟩ := QuestionQuery.named_iff.mp named
  simp only [Client.start, valid, Client.checked, sealed.isCached]

end

/-- Loads of a page are repeatable. In a run at a client whose cache of pages
keeps what it is given and never loses this page, with calls of all services,
any other losses, and requests answered in any order and in any way:

- all loads of the page that succeed say the same;
- at most one request of a load of the page is ever answered with what can be
  read as this page;
- from then on the page is said to be cached, and a load of it succeeds at
  once, with what that answer said, and sends nothing;
- no load of the page sends after that, whenever it was called.

A load is of the page if its parameters name it, in whatever spelling. -/
theorem loads_repeat (token : Option String) (pages rights : CacheLimits)
    (retains : pages.retains = true) (page : QuestionQuery) (ss : List Step)
    (stays : .losePage page.cacheKey ∉ ss) :
    (∀ v w, Loaded page (play token pages rights ss).log v →
      Loaded page (play token pages rights ss).log w → v = w) ∧
    (∀ before before' b b', Decoded page (play token pages rights ss).log before b →
      Decoded page (play token pages rights ss).log before' b' → before = before') ∧
    (∀ before b, Decoded page (play token pages rights ss).log before b →
      ∀ s n cursor, page.Named s n cursor →
        (play token pages rights (ss ++ [.call (.isPageCached s n cursor)])).log =
          (play token pages rights ss).log ++
            [.called (play token pages rights ss).made (.isPageCached s n cursor),
              .returned (play token pages rights ss).made (.ok (.flag true))] ∧
        (play token pages rights (ss ++ [.call (.loadQuestions s n cursor)])).log =
          (play token pages rights ss).log ++
            [.called (play token pages rights ss).made (.loadQuestions s n cursor),
              .returned (play token pages rights ss).made (.ok (.questions b.questions))]) ∧
    ∀ l i r l' s n cursor, (play token pages rights ss).log = l ++ .sent i r :: l' →
      .called i (.loadQuestions s n cursor) ∈ l → page.Named s n cursor →
        ∀ before b, ¬ Decoded page l before b := by
  have kept := kept_play token pages rights ss
  have honest := honest_play token pages rights ss
  have repeats : Repeats page _ := repeats_play token rights retains stays
  refine ⟨fun v w hv hw => ?_, fun _ _ _ _ => repeats.once, ?_, ?_⟩
  · obtain ⟨_, b, one, rfl⟩ := hv.decoded kept honest
    obtain ⟨_, b', two, rfl⟩ := hw.decoded kept honest
    have same := (repeats.sealed one).held.symm.trans (repeats.sealed two).held
    rw [Option.some.inj same]
  · intro before b decoded s n cursor named
    have sealed := repeats.sealed decoded
    constructor
    · rw [play_concat, log_of_call, start_isCached_of_sealed sealed named]
      rfl
    · rw [play_concat, log_of_call, start_load_of_sealed sealed named]
      rfl
  · intro l i r l' s n cursor split called named
    exact repeats.quiet l _ l' split i r s n cursor rfl called named

/-- An answer with one question and no next page. -/
def servedQuestion (id : String) : Response :=
  .ofValue 200 (.arr [.arr [.obj [("id", .str id), ("question_state_data", .null)]], .null])

/-- A load and a fetch of one page overlap. The fetch is answered last, and
sees another question. -/
def fetchedMeanwhile : List Step :=
  [.call (.loadQuestions "1" " +03 " none), .call (.fetchQuestions "1" "3" none),
    .answer 0 (.ok (servedQuestion "old")), .answer 1 (.ok (servedQuestion "new"))]

/-- A load of the page in another spelling still says what the first one has
said. -/
theorem loads_repeat_after_fetch :
    CacheLimits.retains {} = true ∧
    .losePage (QuestionQuery.cacheKey ⟨"1", 3, ""⟩) ∉ fetchedMeanwhile ∧
    QuestionQuery.Named ⟨"1", 3, ""⟩ "1" "3" (some "") ∧
    (play none {} {} (fetchedMeanwhile ++ [.call (.loadQuestions "1" "3" (some ""))])).log =
      (play none {} {} fetchedMeanwhile).log ++
        [.called 2 (.loadQuestions "1" "3" (some "")),
          .returned 2 (.ok (.questions [⟨"old", .null, "", 0, []⟩]))] := by
  have stays : .losePage (QuestionQuery.cacheKey ⟨"1", 3, ""⟩) ∉ fetchedMeanwhile := by
    simp [fetchedMeanwhile]
  have spelled : ∀ n ∈ ["3", " +03 "], QuestionQuery.ofTexts "1" n = .ok ⟨"1", 3, ""⟩ := by
    simp only [List.forall_mem_cons]
    exact ⟨rfl, rfl, nofun⟩
  have named : QuestionQuery.Named ⟨"1", 3, ""⟩ "1" "3" (some "") :=
    QuestionQuery.named_iff.mpr ⟨_, spelled _ (by simp), rfl⟩
  have decoded : Decoded ⟨"1", 3, ""⟩ (play none {} {} fetchedMeanwhile).log
      [.called 0 (.loadQuestions "1" " +03 " none), .sent 0 (QuestionQuery.request ⟨"1", 3, ""⟩),
        .called 1 (.fetchQuestions "1" "3" none), .sent 1 (QuestionQuery.request ⟨"1", 3, ""⟩)]
      ⟨[⟨"old", .null, "", 0, []⟩], none⟩ :=
    .mk (a := .ok (servedQuestion "old")) rfl List.mem_cons_self
      (QuestionQuery.named_iff.mpr ⟨_, spelled " +03 " (by simp), rfl⟩) rfl
  have told := (loads_repeat none {} {} rfl ⟨"1", 3, ""⟩ fetchedMeanwhile stays).2.2.1
    _ _ decoded "1" "3" (some "") named
  exact ⟨rfl, stays, named, told.2⟩

end Traffic

end LearningClient.Rehearsal
