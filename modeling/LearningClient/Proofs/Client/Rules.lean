import LearningClient.Client.Basic
import LearningClient.Proofs.Client.Query
import LearningClient.Proofs.Text.Numeral

/-!
# The rules that calls obey

Each call has a list of rules for its parameters (`Call.rules`): when a rule
is broken, and what the caller is told then. The list is in the order in
which the rules are looked at, and only the first one that is broken counts
(`FirstBroken`). Nothing here says how a rule is checked: a list of skills is
`IsNumberList`, a count is `IsNumber`.

A call whose parameters break a rule is over in its first turn. It says what
the first broken rule says, whatever the client remembers, and leaves the
client as it was (`Client.start_of_firstBroken`). Parameters that have passed
break none, so what is known of them is what the rules say, the other way
round.
-/

namespace LearningClient

open LearningClient.Text

/-- Runs of digits with single commas between them. -/
def IsNumberList (text : String) : Prop :=
  ∃ runs : List (List Char), runs ≠ [] ∧ (∀ run ∈ runs, IsRun run) ∧
    text.toList = [','].intercalate runs

/-- A rule for the parameters of a call: when it is broken, and what the
caller is told then. -/
structure Rule where
  broken : Prop
  message : String

/-- The rules for a page of questions. -/
def pageRules (skillIds count : String) : List Rule :=
  [⟨skillIds = "", "Skill ids value is expected but is missing"⟩,
    ⟨¬ IsNumberList skillIds, "Skill ids should be comma separated numbers"⟩,
    ⟨count = "", "Question count value is expected but is missing"⟩,
    ⟨¬ ∃ n, IsNumber count n, "Question count has to be a number"⟩,
    ⟨∃ n ≤ 0, IsNumber count n, "Question count has to be positive"⟩]

/-- The rules for the names of a topic. -/
def topicRules (name abbreviatedName : String) : List Rule :=
  [⟨name = "", "Topic name value is expected but is missing"⟩,
    ⟨abbreviatedName = "", "Abbreviated name value is expected but is missing"⟩]

/-- The rules for the name of a skill. -/
def skillRules (skillId : String) : List Rule :=
  [⟨skillId = "", "Skill id value is expected but is missing"⟩,
    ⟨skillId = "." ∨ skillId = "..", "Skill id should not be a relative path"⟩]

/-- The rules for the parameters of a call, in the order in which they are
looked at. -/
def Call.rules : Call → List Rule
  | .fetchQuestions skillIds count _ => pageRules skillIds count
  | .loadQuestions skillIds count _ => pageRules skillIds count
  | .isPageCached skillIds count _ => pageRules skillIds count
  | .createTopic name abbreviatedName => topicRules name abbreviatedName
  | .fetchRights skillId => skillRules skillId
  | .loadRights skillId => skillRules skillId
  | _ => []

/-- What the first broken rule of a list says. -/
inductive FirstBroken : List Rule → String → Prop
  | here {rule : Rule} {rules : List Rule} (broken : rule.broken) :
      FirstBroken (rule :: rules) rule.message
  | later {rule : Rule} {rules : List Rule} {text : String} (obeyed : ¬ rule.broken)
      (rest : FirstBroken rules text) : FirstBroken (rule :: rules) text

theorem not_firstBroken_nil {text : String} : ¬ FirstBroken [] text := nofun

theorem firstBroken_cons {rule : Rule} {rules : List Rule} {text : String} :
    FirstBroken (rule :: rules) text ↔
      rule.broken ∧ text = rule.message ∨ ¬ rule.broken ∧ FirstBroken rules text := by
  constructor
  · intro h
    cases h with
    | here broken => exact .inl ⟨broken, rfl⟩
    | later obeyed rest => exact .inr ⟨obeyed, rest⟩
  · rintro (⟨broken, rfl⟩ | ⟨obeyed, rest⟩)
    · exact .here broken
    · exact .later obeyed rest

/-- If a rule is broken, there is a first one. -/
theorem exists_firstBroken {rules : List Rule} (h : ∃ rule ∈ rules, rule.broken) :
    ∃ text, FirstBroken rules text := by
  induction rules with
  | nil => simp at h
  | cons rule rules ih =>
    by_cases broken : rule.broken
    · exact ⟨rule.message, .here broken⟩
    · obtain ⟨other, mem, breach⟩ := h
      rcases List.mem_cons.mp mem with rfl | mem
      · exact absurd breach broken
      · obtain ⟨text, rest⟩ := ih ⟨other, mem, breach⟩
        exact ⟨text, .later broken rest⟩

/-- If there is no first rule that is broken, none is. -/
theorem obeyed_of_not_firstBroken (rules : List Rule) (h : ∀ text, ¬ FirstBroken rules text) :
    ∀ rule ∈ rules, ¬ rule.broken := by
  intro rule mem broken
  obtain ⟨text, first⟩ := exists_firstBroken ⟨rule, mem, broken⟩
  exact h text first

/-- There is one first rule that is broken. -/
theorem FirstBroken.unique {rules : List Rule} {text text' : String} (h : FirstBroken rules text)
    (h' : FirstBroken rules text') : text = text' := by
  induction h with
  | here broken =>
    cases h' with
    | here _ => rfl
    | later obeyed _ => exact absurd broken obeyed
  | later obeyed _ ih =>
    cases h' with
    | here broken => exact absurd broken obeyed
    | later _ rest => exact ih rest

namespace Parameter

/-! ## What the checks find -/

theorem isNumberList_iff {text : String} :
    isNumberList text.toList = true ↔ IsNumberList text := by
  rw [isNumberList, List.all_eq_true]
  constructor
  · intro items
    refine ⟨text.toList.splitOn ',', ?_, fun run mem => ?_, ?_⟩
    · exact List.splitOn_ne_nil _ _
    · have item := items run mem
      rw [Bool.and_eq_true, Bool.not_eq_true', List.isEmpty_eq_false_iff, List.all_eq_true] at item
      exact ⟨item.1, item.2⟩
    · exact (List.intercalate_splitOn ',').symm
  · rintro ⟨runs, full, each, whole⟩
    have parts : text.toList.splitOn ',' = runs := by
      rw [whole]
      refine List.splitOn_intercalate _ (fun run mem comma => ?_) full
      exact absurd ((each run mem).digits _ comma) (by decide)
    intro run mem
    rw [parts] at mem
    rw [Bool.and_eq_true, Bool.not_eq_true', List.isEmpty_eq_false_iff, List.all_eq_true]
    exact ⟨(each run mem).full, (each run mem).digits⟩

theorem present_of_ne {value : String} (h : value ≠ "") : present value = .ok value := by
  rw [present, if_neg]
  simpa using h

theorem numberList_of {value : String} (h : IsNumberList value) : numberList value = .ok () := by
  rw [numberList, if_pos (isNumberList_iff.mpr h)]

theorem numberList_of_not {value : String} (h : ¬ IsNumberList value) :
    numberList value = .error .notNumberList := by
  rw [numberList, if_neg (fun list => h (isNumberList_iff.mp list))]

theorem number_of {value : String} {n : Int} (h : IsNumber value n) : number value = .ok n := by
  rw [number, readInt64?_eq_some.mpr h]

theorem number_of_not {value : String} (h : ¬ ∃ n, IsNumber value n) :
    number value = .error .notNumber := by
  unfold number
  split
  · rename_i n read
    exact absurd ⟨n, readInt64?_eq_some.mp read⟩ h
  · rfl

theorem positive_of_le {n : Int} (h : n ≤ 0) : positive n = .error .notPositive := by
  rw [positive, if_pos h]

theorem pathSegment_of_dots {value : String} (h : value = "." ∨ value = "..") :
    pathSegment value = .error .relativePath := by
  rw [pathSegment, if_pos]
  simpa using h

theorem pathSegment_of_ne {value : String} (dot : value ≠ ".") (dots : value ≠ "..") :
    pathSegment value = .ok () := by
  rw [pathSegment, if_neg]
  simpa using ⟨dot, dots⟩

theorem positive_of_lt {n : Int} (h : 0 < n) : positive n = .ok n.toNat := by
  rw [positive, if_neg (Int.not_le.mpr h)]

theorem check_ok_bind {α β : Type} (parameter : String) (v : α) (k : α → Outcome β) :
    (check parameter (.ok v) >>= k) = k v := rfl

theorem check_error_bind {α β : Type} (parameter : String) (b : Breach) (k : α → Outcome β) :
    (check parameter (.error b) >>= k) = .error (.validation (b.message parameter)) := rfl

end Parameter

open Parameter

section
variable {text : String}

theorem QuestionQuery.ofTexts_of_firstBroken {s n : String} (h : FirstBroken (pageRules s n) text) :
    ofTexts s n = .error (.validation text) := by
  simp only [pageRules, firstBroken_cons, not_firstBroken_nil, and_false, or_false] at h
  rw [ofTexts]
  rcases h with ⟨rfl, rfl⟩ | ⟨present, h⟩
  · rfl
  rw [present_of_ne present, check_ok_bind]
  rcases h with ⟨odd, rfl⟩ | ⟨list, h⟩
  · rw [numberList_of_not odd, check_error_bind]
    rfl
  rw [numberList_of (not_not.mp list), check_ok_bind]
  rcases h with ⟨rfl, rfl⟩ | ⟨present, h⟩
  · rfl
  rw [present_of_ne present, check_ok_bind]
  rcases h with ⟨odd, rfl⟩ | ⟨number, ⟨k, low, spelled⟩, rfl⟩
  · rw [number_of_not odd, check_error_bind]
    rfl
  · rw [number_of spelled, check_ok_bind, positive_of_le low, check_error_bind]
    rfl

theorem TopicDraft.ofTexts_of_firstBroken {n a : String} (h : FirstBroken (topicRules n a) text) :
    ofTexts n a = .error (.validation text) := by
  simp only [topicRules, firstBroken_cons, not_firstBroken_nil, and_false, or_false] at h
  rw [ofTexts]
  rcases h with ⟨rfl, rfl⟩ | ⟨present, rfl, rfl⟩
  · rfl
  · rw [present_of_ne present, check_ok_bind]
    rfl

theorem checkSkillId_of_firstBroken {s : String} (h : FirstBroken (skillRules s) text) :
    checkSkillId s = .error (.validation text) := by
  simp only [skillRules, firstBroken_cons, not_firstBroken_nil, and_false, or_false] at h
  rw [checkSkillId]
  rcases h with ⟨rfl, rfl⟩ | ⟨present, dots, rfl⟩
  · rfl
  · rw [present_of_ne present, check_ok_bind, pathSegment_of_dots dots, check_error_bind]
    rfl

/-- A call whose parameters break a rule is over in its first turn, and leaves
the client as it was. -/
theorem Client.start_of_firstBroken (c : Client) {call : Call} (h : FirstBroken call.rules text) :
    c.start call = (.done (.error (.validation text)), c) := by
  cases call with
  | fetchQuestions s n cursor =>
    simp only [start, QuestionQuery.ofTexts_of_firstBroken h, checked]
  | loadQuestions s n cursor =>
    simp only [start, QuestionQuery.ofTexts_of_firstBroken h, checked]
  | isPageCached s n cursor =>
    simp only [start, QuestionQuery.ofTexts_of_firstBroken h, checked]
  | createTopic n a => simp only [start, TopicDraft.ofTexts_of_firstBroken h, checked]
  | fetchRights s => simp only [start, checkSkillId_of_firstBroken h, checked]
  | loadRights s => simp only [start, checkSkillId_of_firstBroken h, checked]
  | _ => exact absurd h not_firstBroken_nil

/-! ## What has passed -/

theorem IsNumberList.ne_empty {s : String} (h : IsNumberList s) : s ≠ "" := by
  rintro rfl
  exact absurd (isNumberList_iff.mpr h) (by decide)

/-- A list of numbers and a count that spells a number above zero pass. -/
theorem QuestionQuery.ofTexts_of_spelled {s n : String} {k : Int} (list : IsNumberList s)
    (spelled : IsNumber n k) (positive : 0 < k) : ofTexts s n = .ok ⟨s, k.toNat, ""⟩ := by
  rw [ofTexts, present_of_ne list.ne_empty, check_ok_bind, numberList_of list, check_ok_bind,
    present_of_ne (spelled.ne_empty), check_ok_bind, number_of spelled, check_ok_bind,
    positive_of_lt positive, check_ok_bind]
  rfl

/-- A page that can be asked for has a list of numbers, and its count is the
number that is spelled. -/
theorem QuestionQuery.spelled_of_ofTexts {s n : String} {q : QuestionQuery}
    (h : ofTexts s n = .ok q) : IsNumberList s ∧ 0 < q.count ∧ IsNumber n q.count := by
  have obeyed := obeyed_of_not_firstBroken (pageRules s n) fun text first => by
    rw [ofTexts_of_firstBroken first] at h
    cases h
  simp only [pageRules, List.forall_mem_cons, not_not] at obeyed
  obtain ⟨_, list, _, ⟨k, spelled⟩, positive, _⟩ := obeyed
  have pos : 0 < k := Int.not_le.mp fun low => positive ⟨k, low, spelled⟩
  have whole : (k.toNat : Int) = k := Int.toNat_of_nonneg (Int.le_of_lt pos)
  cases (ofTexts_of_spelled list spelled pos).symm.trans h
  exact ⟨list, Int.lt_toNat.mpr pos, whole.symm ▸ spelled⟩

/-- Parameters name a page: its list of skills as it is written, its count in
any spelling, and its cursor, where none at all is the empty one. -/
structure QuestionQuery.Named (page : QuestionQuery) (s n : String) (cursor : Option String) :
    Prop where
  skills : page.skillIds = s
  list : IsNumberList s
  count : IsNumber n page.count
  positive : 0 < page.count
  start : page.startCursor = cursor.getD ""

/-- The page that parameters name is the one that they are read as. -/
theorem QuestionQuery.named_iff {page : QuestionQuery} {s n : String} {cursor : Option String} :
    page.Named s n cursor ↔
      ∃ q, ofTexts s n = .ok q ∧ q.startingAt (cursor.getD "") = page := by
  constructor
  · rintro ⟨rfl, list, spelled, positive, start⟩
    refine ⟨_, ofTexts_of_spelled list spelled (Int.natCast_pos.mpr positive), ?_⟩
    rw [← start]
    rfl
  · rintro ⟨q, valid, rfl⟩
    obtain ⟨list, positive, spelled⟩ := spelled_of_ofTexts valid
    exact ⟨(ofTexts_eq_ok valid).1, list, spelled, positive, rfl⟩

/-- A topic that can be created has both of its names. -/
theorem TopicDraft.named_of_ofTexts {n a : String} {t : TopicDraft} (h : ofTexts n a = .ok t) :
    t = ⟨n, a⟩ ∧ n ≠ "" ∧ a ≠ "" := by
  have obeyed := obeyed_of_not_firstBroken (topicRules n a) fun text first => by
    rw [ofTexts_of_firstBroken first] at h
    cases h
  simp only [topicRules, List.forall_mem_cons] at obeyed
  obtain ⟨name, abbreviated, _⟩ := obeyed
  rw [ofTexts, present_of_ne name, check_ok_bind, present_of_ne abbreviated, check_ok_bind] at h
  cases h
  exact ⟨rfl, name, abbreviated⟩

/-- Any other text than these three can be the name of a skill. -/
theorem checkSkillId_of_ne {s : String} (full : s ≠ "") (dot : s ≠ ".") (dots : s ≠ "..") :
    checkSkillId s = .ok s := by
  rw [checkSkillId, present_of_ne full, check_ok_bind, pathSegment_of_ne dot dots, check_ok_bind]
  rfl

theorem segment_of_checkSkillId {s t : String} (h : checkSkillId s = .ok t) :
    s ≠ "" ∧ s ≠ "." ∧ s ≠ ".." := by
  have obeyed := obeyed_of_not_firstBroken (skillRules s) fun text first => by
    rw [checkSkillId_of_firstBroken first] at h
    cases h
  simp only [skillRules, List.forall_mem_cons, not_or] at obeyed
  exact ⟨obeyed.1, obeyed.2.1⟩

end

end LearningClient
