import LearningClient.Proofs.Outcome
import LearningClient.Proofs.Text.Numeral
import LearningClient.Settings

/-!
# What the settings are read from

The settings are read from four variables, all or nothing. What a variable sets
is said on its own (`Settings.ReadFrom`): what stands in it, or the default where it
is missing. Three of them can hold what cannot be read (`Settings.Offends`), and the
first of these in their order is the one that is reported (`Settings.FirstOffence`).
Either there are settings, and every variable has been read, or a variable offends
(`Settings.read_in_order`).

All this holds whatever reads the addresses.
-/

namespace LearningClient.Settings

open LearningClient.Text

/-! ## What the variables say -/

/-- A number of seconds as it may be written. -/
structure IsSeconds (text : String) (n : Nat) : Prop where
  spells : SpellsUnsigned (trim text.toList) n
  fits : n ≤ 0xffffffffffffffff

/-- What a variable sets: what is read in it, or a default where it is missing. -/
inductive Sets {α : Type} (reads : String → α → Prop) (default : α) : Option String → α → Prop
  | given {text : String} {a : α} (read : reads text a) : Sets reads default (some text) a
  | missing : Sets reads default none default

/-- The settings that variables make, each from its own one. -/
structure ReadFrom (parse : AddressReader) (lookup : String → Option String) (s : Settings) :
    Prop where
  baseUrl : Sets (fun text a => parse (trim text.toList) = .ok a) localBackend
    (lookup "BACKEND_BASE_URL") s.baseUrl
  connectTimeout : Sets IsSeconds 10 (lookup "BACKEND_CONNECT_TIMEOUT_SECS") s.connectTimeoutSecs
  requestTimeout : Sets IsSeconds 30 (lookup "BACKEND_REQUEST_TIMEOUT_SECS") s.requestTimeoutSecs
  /-- A token of blanks only is none. -/
  token : ∀ t, s.token = some t ↔
    t ≠ "" ∧ ∃ text, lookup "BACKEND_CSRF_TOKEN" = some text ∧ t = trimmed text

/-- A variable is there and cannot be read, and this is reported. -/
inductive Offends (parse : AddressReader) (lookup : String → Option String) :
    String → Failure → Prop
  | address {text : String} {fault : Url.Fault} (given : lookup "BACKEND_BASE_URL" = some text)
      (unparsed : parse (trim text.toList) = .error fault) :
      Offends parse lookup "BACKEND_BASE_URL" (.config fault.message)
  | seconds {name text : String}
      (timeout : name ∈ ["BACKEND_CONNECT_TIMEOUT_SECS", "BACKEND_REQUEST_TIMEOUT_SECS"])
      (given : lookup name = some text) (unread : ¬ ∃ n, IsSeconds text n) :
      Offends parse lookup name (.config (name ++ " must be a whole number of seconds"))

/-- What is reported of the first of some variables that offends. -/
inductive FirstOffence (parse : AddressReader) (lookup : String → Option String) :
    List String → Failure → Prop
  | here {name : String} {names : List String} {e : Failure}
      (offends : Offends parse lookup name e) : FirstOffence parse lookup (name :: names) e
  | later {name : String} {names : List String} {e : Failure}
      (read : ∀ e', ¬ Offends parse lookup name e') (rest : FirstOffence parse lookup names e) :
      FirstOffence parse lookup (name :: names) e

/-- What a variable sets is one value, if what is read in it is. -/
theorem Sets.unique {α : Type} {reads : String → α → Prop} {default a b : α}
    {value : Option String} (one : ∀ text a b, reads text a → reads text b → a = b)
    (h : Sets reads default value a) (h' : Sets reads default value b) : a = b := by
  cases h with
  | given read =>
    cases h' with
    | given read' => exact one _ _ _ read read'
  | missing =>
    cases h' with
    | missing => rfl

/-- The default address, as it is written. -/
theorem parse_localBackend :
    Url.Address.parse "http://localhost:8181".toList = .ok localBackend := by
  decide +kernel

/-! ## What the readers find -/

theorem readSeconds_eq_ok {name text : String} {n : Nat} :
    readSeconds name text = .ok n ↔ IsSeconds text n := by
  have reads : readUInt64? (trim text.toList) = some n ↔ IsSeconds text n := by
    rw [readUInt64?, Option.filter_eq_some_iff, readUnsigned?_eq_some, decide_eq_true_eq, uint64Max]
    exact ⟨fun ⟨spells, fits⟩ => ⟨spells, fits⟩, fun h => ⟨h.spells, h.fits⟩⟩
  rw [← reads, readSeconds]
  split
  · rename_i m read
    rw [read]
    exact ⟨fun h => congrArg some (Except.ok.inj h), fun h => congrArg _ (Option.some.inj h)⟩
  · rename_i unread
    rw [unread]
    exact ⟨nofun, nofun⟩

theorem readSeconds_eq_error {name text : String} {e : Failure} :
    readSeconds name text = .error e ↔
      (¬ ∃ n, IsSeconds text n) ∧ e = .config (name ++ " must be a whole number of seconds") := by
  constructor
  · intro unread
    refine ⟨fun ⟨n, seconds⟩ => ?_, ?_⟩
    · rw [readSeconds_eq_ok.mpr seconds] at unread
      cases unread
    · unfold readSeconds at unread
      split at unread
      · cases unread
      · exact (Except.error.inj unread).symm
  · rintro ⟨odd, rfl⟩
    cases read : readSeconds name text with
    | ok n => exact absurd ⟨n, readSeconds_eq_ok.mp read⟩ odd
    | error e =>
      unfold readSeconds at read
      split at read
      · cases read
      · exact read.symm

theorem readBaseUrl_eq_ok {parse : AddressReader} {text : String} {a : Url.Address} :
    readBaseUrl parse text = .ok a ↔ parse (trim text.toList) = .ok a := by
  unfold readBaseUrl
  cases parse (trim text.toList) with
  | error fault => exact ⟨nofun, nofun⟩
  | ok b => exact ⟨fun h => congrArg _ (Except.ok.inj h), fun h => congrArg _ (Except.ok.inj h)⟩

theorem readBaseUrl_eq_error {parse : AddressReader} {text : String} {e : Failure} :
    readBaseUrl parse text = .error e ↔
      ∃ fault, parse (trim text.toList) = .error fault ∧ e = .config fault.message := by
  unfold readBaseUrl
  cases parse (trim text.toList) with
  | error fault =>
    constructor
    · intro h
      exact ⟨fault, rfl, (Except.error.inj h).symm⟩
    · rintro ⟨_, same, rfl⟩
      rw [← Except.error.inj same]
      rfl
  | ok b => exact ⟨nofun, fun ⟨_, h, _⟩ => nomatch h⟩

section
variable {α : Type} {value : Option String} {read : String → Outcome α} {default a : α}

theorem orDefault_eq_ok {reads : String → α → Prop}
    (found : ∀ text a, read text = .ok a ↔ reads text a) :
    orDefault value read default = .ok a ↔ Sets reads default value a := by
  cases value with
  | none =>
    constructor
    · intro h
      cases h
      exact .missing
    · rintro ⟨⟩
      rfl
  | some text =>
    constructor
    · intro h
      exact .given ((found text a).mp h)
    · rintro ⟨read⟩
      exact (found text a).mpr read

theorem orDefault_eq_error {e : Failure} :
    orDefault value read default = .error e ↔
      ∃ text, value = some text ∧ read text = .error e := by
  cases value with
  | none => exact ⟨nofun, fun ⟨_, h, _⟩ => nomatch h⟩
  | some text =>
    constructor
    · intro h
      exact ⟨text, rfl, h⟩
    · rintro ⟨_, ⟨⟩, h⟩
      exact h

end

/-! ## All or nothing, in order -/

variable {parse : AddressReader} {lookup : String → Option String}

theorem address_offends {e : Failure} :
    orDefault (lookup baseUrlVar) (readBaseUrl parse) default.baseUrl = .error e ↔
      Offends parse lookup "BACKEND_BASE_URL" e := by
  rw [orDefault_eq_error]
  constructor
  · rintro ⟨text, given, unread⟩
    obtain ⟨fault, unparsed, rfl⟩ := readBaseUrl_eq_error.mp unread
    exact .address given unparsed
  · intro h
    cases h with
    | address given unread => exact ⟨_, given, readBaseUrl_eq_error.mpr ⟨_, unread, rfl⟩⟩
    | seconds timeout given unread => exact absurd timeout (by decide)

theorem seconds_offend {name : String}
    (timeout : name ∈ ["BACKEND_CONNECT_TIMEOUT_SECS", "BACKEND_REQUEST_TIMEOUT_SECS"])
    {secs : Nat} {e : Failure} :
    orDefault (lookup name) (readSeconds name) secs = .error e ↔ Offends parse lookup name e := by
  rw [orDefault_eq_error]
  constructor
  · rintro ⟨text, given, unread⟩
    obtain ⟨odd, rfl⟩ := readSeconds_eq_error.mp unread
    exact .seconds timeout given odd
  · intro h
    cases h with
    | address given unread => exact absurd timeout (by decide)
    | seconds _ given unread => exact ⟨_, given, readSeconds_eq_error.mpr ⟨unread, rfl⟩⟩

/-- One variable is read, and then the others, whatever it has set. -/
theorem firstOffence_bind {α β : Type} {x : Outcome α} {next : α → Outcome β} {name : String}
    {names : List String} {e : Failure} (own : ∀ e, x = .error e ↔ Offends parse lookup name e)
    (rest : ∀ a, next a = .error e ↔ FirstOffence parse lookup names e) :
    x >>= next = .error e ↔ FirstOffence parse lookup (name :: names) e := by
  cases x with
  | error e' =>
    have offends := (own e').mp rfl
    constructor
    · intro h
      cases h
      exact .here offends
    · intro h
      cases h with
      | here offends' => rw [Except.error.inj ((own e).mpr offends')]; rfl
      | later read _ => exact absurd offends (read e')
  | ok a =>
    have read : ∀ e', ¬ Offends parse lookup name e' := fun e' h => nomatch (own e').mpr h
    constructor
    · intro h
      exact .later read ((rest a).mp h)
    · intro h
      cases h with
      | here offends => exact absurd offends (read e)
      | later _ first => exact (rest a).mpr first

theorem ofLookupWith_eq_error {e : Failure} :
    ofLookupWith parse lookup = .error e ↔
      FirstOffence parse lookup ["BACKEND_BASE_URL", "BACKEND_CONNECT_TIMEOUT_SECS",
        "BACKEND_REQUEST_TIMEOUT_SECS"] e := by
  refine firstOffence_bind (fun e => address_offends) fun baseUrl => ?_
  refine firstOffence_bind (fun e => seconds_offend (by decide)) fun connect => ?_
  refine firstOffence_bind (fun e => seconds_offend (by decide)) fun request => ?_
  exact ⟨nofun, nofun⟩

theorem token_eq_some {t : String} :
    ((lookup tokenVar).map trimmed).filter (!·.isEmpty) = some t ↔
      t ≠ "" ∧ ∃ text, lookup "BACKEND_CSRF_TOKEN" = some text ∧ t = trimmed text := by
  rw [Option.filter_eq_some_iff, Option.map_eq_some_iff]
  simp only [tokenVar, Bool.not_eq_true', String.isEmpty_eq_false_iff, eq_comm (a := t)]
  exact and_comm

theorem ofLookupWith_eq_ok {s : Settings} : ofLookupWith parse lookup = .ok s ↔ ReadFrom parse lookup s := by
  constructor
  · intro read
    obtain ⟨baseUrl, address, read⟩ := bind_eq_ok.mp read
    obtain ⟨connect, first, read⟩ := bind_eq_ok.mp read
    obtain ⟨request, second, read⟩ := bind_eq_ok.mp read
    cases read
    exact ⟨(orDefault_eq_ok fun _ _ => readBaseUrl_eq_ok).mp address,
      (orDefault_eq_ok fun _ _ => readSeconds_eq_ok).mp first,
      (orDefault_eq_ok fun _ _ => readSeconds_eq_ok).mp second, fun t => token_eq_some⟩
  · intro h
    have token : ((lookup tokenVar).map trimmed).filter (!·.isEmpty) = s.token :=
      Option.ext fun t => token_eq_some.trans (h.token t).symm
    have address : orDefault (lookup baseUrlVar) (readBaseUrl parse) default.baseUrl = .ok s.baseUrl :=
      (orDefault_eq_ok fun _ _ => readBaseUrl_eq_ok).mpr h.baseUrl
    have connect : orDefault (lookup connectTimeoutVar) (readSeconds connectTimeoutVar)
        default.connectTimeoutSecs = .ok s.connectTimeoutSecs :=
      (orDefault_eq_ok fun _ _ => readSeconds_eq_ok).mpr h.connectTimeout
    have request : orDefault (lookup requestTimeoutVar) (readSeconds requestTimeoutVar)
        default.requestTimeoutSecs = .ok s.requestTimeoutSecs :=
      (orDefault_eq_ok fun _ _ => readSeconds_eq_ok).mpr h.requestTimeout
    rw [ofLookupWith, address, connect, request, token]
    rfl

/-- How the settings are read, whatever the variables hold and whatever reads the
addresses (in `ofLookup` it is `Url.Address.parse`):

- there are none exactly if a variable offends, and what is reported is what is
  reported of the first one, whatever stands in those after it;
- there are settings exactly if each is what its own variable sets;
- other variables than these four do not matter;
- where there are settings, a variable that stays as it is leaves its own setting as
  it is. -/
theorem read_in_order (parse : AddressReader) (lookup : String → Option String) :
    (∀ e, ofLookupWith parse lookup = .error e ↔
      FirstOffence parse lookup ["BACKEND_BASE_URL", "BACKEND_CONNECT_TIMEOUT_SECS",
        "BACKEND_REQUEST_TIMEOUT_SECS"] e) ∧
    (∀ s, ofLookupWith parse lookup = .ok s ↔ ReadFrom parse lookup s) ∧
    (∀ other : String → Option String,
      (∀ name ∈ ["BACKEND_BASE_URL", "BACKEND_CONNECT_TIMEOUT_SECS",
        "BACKEND_REQUEST_TIMEOUT_SECS", "BACKEND_CSRF_TOKEN"], other name = lookup name) →
      ofLookupWith parse other = ofLookupWith parse lookup) ∧
    (∀ (other : String → Option String) (s t : Settings),
      ofLookupWith parse lookup = .ok s → ofLookupWith parse other = .ok t →
      (other "BACKEND_BASE_URL" = lookup "BACKEND_BASE_URL" → t.baseUrl = s.baseUrl) ∧
      (other "BACKEND_CONNECT_TIMEOUT_SECS" = lookup "BACKEND_CONNECT_TIMEOUT_SECS" →
        t.connectTimeoutSecs = s.connectTimeoutSecs) ∧
      (other "BACKEND_REQUEST_TIMEOUT_SECS" = lookup "BACKEND_REQUEST_TIMEOUT_SECS" →
        t.requestTimeoutSecs = s.requestTimeoutSecs) ∧
      (other "BACKEND_CSRF_TOKEN" = lookup "BACKEND_CSRF_TOKEN" → t.token = s.token)) := by
  refine ⟨fun e => ofLookupWith_eq_error, fun s => ofLookupWith_eq_ok, ?_, ?_⟩
  · intro other agree
    simp only [List.forall_mem_cons] at agree
    obtain ⟨address, connect, request, token, _⟩ := agree
    simp only [ofLookupWith, baseUrlVar, connectTimeoutVar, requestTimeoutVar, tokenVar, address,
      connect, request, token]
  · intro other s t read read'
    have made := ofLookupWith_eq_ok.mp read
    have made' := ofLookupWith_eq_ok.mp read'
    have oneNumber : ∀ text m n, IsSeconds text m → IsSeconds text n → m = n :=
      fun _ _ _ h h' => h.spells.unique h'.spells
    refine ⟨fun same => ?_, fun same => ?_, fun same => ?_, fun same => Option.ext fun u => ?_⟩
    · have baseUrl := made'.baseUrl
      rw [same] at baseUrl
      exact baseUrl.unique (fun _ _ _ h h' => Except.ok.inj (h.symm.trans h')) made.baseUrl
    · have connect := made'.connectTimeout
      rw [same] at connect
      exact connect.unique oneNumber made.connectTimeout
    · have request := made'.requestTimeout
      rw [same] at request
      exact request.unique oneNumber made.requestTimeout
    · rw [made'.token, made.token, same]

/-- Variables by name. -/
def inList (vars : List (String × String)) (name : String) : Option String := vars.lookup name

/-- An address, a minus sign, and the number after the largest. -/
def beyondLimit : List (String × String) :=
  [("BACKEND_REQUEST_TIMEOUT_SECS", "18446744073709551616"),
    ("BACKEND_CONNECT_TIMEOUT_SECS", "-1"), ("BACKEND_BASE_URL", " http://h ")]

/-- An address with a letter beyond ASCII, the largest number, behind a blank, a sign
and zeros, and a token. -/
def atLimit : List (String × String) :=
  [("BACKEND_BASE_URL", " http://B\u00dccher.example/app "),
    ("BACKEND_CONNECT_TIMEOUT_SECS", "\u3000+0018446744073709551615"),
    ("BACKEND_CSRF_TOKEN", " abc ")]

/-- What is read from these. -/
def atLimitSettings : Settings where
  baseUrl :=
    { scheme := "http".toList, host := some (.name "xn--bcher-kva.example".toList),
      path := .segments ["app".toList] }
  connectTimeoutSecs := 18446744073709551615
  requestTimeoutSecs := 30
  token := some "abc"

/-- Of two timeouts that offend the first is reported, although an address is there
to be read. The largest number is read, what is missing has its default, and a
variable with another name does not matter. -/
theorem read_in_order_at_limit :
    ofLookup (inList beyondLimit) =
      .error (.config "BACKEND_CONNECT_TIMEOUT_SECS must be a whole number of seconds") ∧
    ofLookup (inList atLimit) = .ok atLimitSettings ∧
    ofLookup (inList (("BACKEND_TIMEOUT", "-1") :: atLimit)) = .ok atLimitSettings := by
  obtain ⟨refused, -, -, -⟩ := read_in_order Url.Address.parse (inList beyondLimit)
  obtain ⟨-, accepted, others, -⟩ := read_in_order Url.Address.parse (inList atLimit)
  have minus : ¬ ∃ n, IsSeconds "-1" n := by
    rintro ⟨n, seconds⟩
    have spells : SpellsUnsigned ['-', '1'] n := seconds.spells
    exact not_spellsUnsigned_minus spells
  have address : ∀ e, ¬ Offends Url.Address.parse (inList beyondLimit) "BACKEND_BASE_URL" e := by
    have parsed : (Url.Address.parse (trim " http://h ".toList)).isOk = true := by decide +kernel
    rintro e (⟨given, unparsed⟩ | ⟨timeout, _, _⟩)
    · obtain rfl : " http://h " = _ := Option.some.inj given
      rw [unparsed] at parsed
      cases parsed
    · exact absurd timeout (by decide)
  have abroad : Url.Address.parse (trim " http://B\u00dccher.example/app ".toList) =
      .ok atLimitSettings.baseUrl := by decide +kernel
  have largest : IsSeconds "\u3000+0018446744073709551615" 18446744073709551615 :=
    ⟨readUnsigned?_eq_some.mp (by decide +kernel), by omega⟩
  have token : ∀ t, some "abc" = some t ↔
      t ≠ "" ∧ ∃ text, inList atLimit "BACKEND_CSRF_TOKEN" = some text ∧ t = trimmed text := by
    have text : trimmed " abc " = "abc" := by decide +kernel
    intro t
    constructor
    · rintro ⟨⟩
      exact ⟨by decide, " abc ", rfl, text.symm⟩
    · rintro ⟨_, _, ⟨⟩, rfl⟩
      rw [text]
  have settings := (accepted atLimitSettings).mpr
    ⟨.given abroad, .given largest, .missing, token⟩
  refine ⟨(refused _).mpr (.later address (.here (.seconds (by decide) rfl minus))), settings,
    (others _ ?_).trans settings⟩
  simp only [List.forall_mem_cons]
  exact ⟨rfl, rfl, rfl, rfl, by simp⟩

end LearningClient.Settings
