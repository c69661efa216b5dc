import MailScreen.Command.Run
import MailScreen.Proofs.Command.PathForm
import MailScreen.Proofs.FirstFailure

/-!
# What command lines ask for

A request that is read from a command line has files, its paths are in normal form, and its log
level is one that is known (`ScanRequest.Proper`). This is an invariant of reading arguments.
**Requests like that and no others are asked for** (`CommandRequest.asked_iff`): each by the command
line that has its options, every one with its value in the same word, then two dashes, and then the
spellings of its files. So a request may be taken apart into requests for one file each.
-/
namespace MailScreen

/-- **A request whose paths are in normal form and whose log level is known.** -/
structure ScanRequest.Proper (request : ScanRequest) : Prop where
  /-- The message files have paths in normal form. -/
  files : ∀ path ∈ request.files, path.Normal
  /-- So has the rule file. -/
  rules : ∀ path, request.rules = some path → path.Normal
  /-- So has the file that the report is written to. -/
  output : ∀ path, request.output = some path → path.Normal
  /-- The log level is one of those that the command line knows. -/
  logLevel : ∀ level, request.logLevel = some level →
    Settings.logLevels.any (·.toList = level) = true

/-! ## Requests that are read -/

namespace ScanRequest.Proper

variable {request next : ScanRequest}

/-- An option with a value keeps a request proper. -/
theorem withValue {option : CommandOption} {value : Text} (h : request.Proper)
    (hw : request.withValue option value = .ok next) : next.Proper := by
  unfold ScanRequest.withValue at hw
  split at hw
  · obtain rfl := Except.ok.inj hw
    exact { h with rules := fun _ he => Option.some.inj he ▸ Path.normal_ofText value }
  · obtain rfl := Except.ok.inj hw
    exact { h with output := fun _ he => Option.some.inj he ▸ Path.normal_ofText value }
  · split at hw
    · rename_i hl
      obtain rfl := Except.ok.inj hw
      exact { h with logLevel := fun _ he => Option.some.inj he ▸ hl }
    · cases hw
  all_goals cases hw

/-- An option without a value keeps a request proper. -/
theorem withFlag {option : CommandOption} (h : request.Proper)
    (hw : request.withFlag option = .ok next) : next.Proper := by
  unfold ScanRequest.withFlag at hw
  split at hw
  · obtain rfl := Except.ok.inj hw
    exact { h with }
  · obtain rfl := Except.ok.inj hw
    exact { h with }
  · obtain rfl := Except.ok.inj hw
    exact h
  all_goals cases hw

/-- **A scan starts if its command line names a log level**, whatever level the settings name. -/
theorem exists_shownFrom (h : request.Proper) {level : Text} (hl : request.logLevel = some level)
    (settings : Settings) : ∃ rank, request.shownFrom settings = .ok rank := by
  have hm : ∃ name ∈ Settings.logLevels, name.toList = level := by
    simpa using h.logLevel level hl
  obtain ⟨name, hname, rfl⟩ := hm
  have hknown : ∀ name ∈ Settings.logLevels,
      (logLevelRanks.find? (·.1.toList = name.toList.map upperInLevel)).isSome = true := by
    decide +kernel
  obtain ⟨entry, he⟩ := Option.isSome_iff_exists.mp (hknown name hname)
  refine ⟨entry.2, ?_⟩
  rw [ScanRequest.shownFrom, hl, Option.getD_some, he]

end ScanRequest.Proper

namespace CommandRequest

/-- **Reading arguments keeps a request proper, and it ends with files in it.** -/
theorem proper_of_ofArguments {request asked : ScanRequest} {unrecognized : List Text}
    {arguments : List CommandArgument} (hp : request.Proper)
    (h : ofArguments request unrecognized arguments = .ok (scan asked)) :
    asked.Proper ∧ asked.files ≠ [] := by
  fun_induction ofArguments request unrecognized arguments with
  | case1 request unrecognized =>
    unfold conclude at h
    split at h
    · cases h
    · rename_i hf
      split at h
      · obtain rfl := scan.inj (Except.ok.inj h)
        exact ⟨hp, by simpa using hf⟩
      · cases h
  | case2 request unrecognized word rest ih => exact ih hp h
  | case3 request unrecognized words rest files hf ih =>
    refine ih { hp with files := ?_ } h
    rintro path hm
    obtain ⟨word, -, rfl⟩ := List.mem_map.mp hm
    exact Path.normal_ofText word
  | case4 request unrecognized words rest files hf ih => exact ih hp h
  | case5 => cases h
  | case6 =>
    obtain ⟨_, -, h⟩ := bind_eq_ok_iff.mp h
    cases h
  | case7 request unrecognized option rest ho ih =>
    obtain ⟨next, hw, h⟩ := bind_eq_ok_iff.mp h
    exact ih next (hp.withFlag hw) h
  | case8 request unrecognized option value rest ih =>
    obtain ⟨next, hw, h⟩ := bind_eq_ok_iff.mp h
    exact ih next (hp.withValue hw) h
  | case9 request unrecognized option letters rest ho ih =>
    obtain ⟨next, hw, h⟩ := bind_eq_ok_iff.mp h
    exact ih next (hp.withValue hw) h

end CommandRequest

/-! ## Command lines for requests -/

namespace CommandOption

/-- An option in full. -/
def spelling : CommandOption → Text
  | help => "--help".toList
  | rules => "--rules".toList
  | strictRules => "--strict-rules".toList
  | logLevel => "--log-level".toList
  | output => "--output".toList
  | headers => "--headers".toList

theorem spelling_eq (option : CommandOption) :
    ∃ c more, option.spelling = '-' :: '-' :: c :: more := by
  cases option <;> exact ⟨_, _, rfl⟩

/-- An option with its value, if it has one, in one word. -/
def word (option : CommandOption) : Option Text → Text
  | none => option.spelling
  | some value => option.spelling ++ '=' :: value

end CommandOption

/-- A value that is attached to an option by an equals sign, or nothing. -/
def AttachedValue.ofValue : Option Text → AttachedValue
  | none => .absent
  | some value => .assigned value

namespace CommandWord

/-- An option in one word with its value is told as what it is. -/
theorem kindOf_word (option : CommandOption) (value : Option Text) :
    kindOf (option.word value) = .ok (.option option (.ofValue value)) := by
  have he : '=' ∉ option.spelling := by cases option <;> decide
  have ho : CommandOption.ofSpelling? option.spelling = some option := by cases option <;> decide
  obtain ⟨c, more, hd⟩ := option.spelling_eq
  rw [hd] at ho he
  cases value with
  | none =>
    rw [CommandOption.word, hd]
    simp only [kindOf, Text.cut?_of_notMem he, ho]
    rfl
  | some value =>
    have hc := Text.cut?_append he value
    rw [List.cons_append, List.cons_append] at hc
    rw [CommandOption.word, hd, List.cons_append, List.cons_append]
    simp only [kindOf, hc, ho]
    rfl

theorem word_ne_separatorText (option : CommandOption) (value : Option Text) :
    option.word value ≠ separatorText := by
  obtain ⟨c, more, hd⟩ := option.spelling_eq
  cases value <;> simp [CommandOption.word, hd, separatorText]

/-- Words that are options come before the separator, and operands after it. -/
theorem ofTexts_words (options : List (CommandOption × Option Text)) (operands : List Text) :
    ofTexts (options.map (fun entry => entry.1.word entry.2) ++ separatorText :: operands) =
      .ok (options.map (fun entry =>
          ⟨entry.1.word entry.2, .option entry.1 (.ofValue entry.2)⟩) ++
        ⟨separatorText, .separator⟩ :: operands.map (⟨·, .operand⟩)) := by
  induction options with
  | nil => rfl
  | cons entry rest ih =>
    rw [List.map_cons, List.cons_append, ofTexts, if_neg (word_ne_separatorText entry.1 entry.2),
      kindOf_word, ih]
    rfl

end CommandWord

namespace CommandArgument

theorem consOperand_ofWords (word : Text) (operands : List Text) :
    consOperand word (ofWords (operands.map (⟨·, .operand⟩))) = [.operands (word :: operands)] := by
  induction operands generalizing word with
  | nil => rfl
  | cons next rest ih => rw [List.map_cons, ofWords, ih next]; rfl

/-- Options that have their values in their own words take none of the operands. -/
theorem ofWords_words (options : List (CommandOption × Option Text)) (operands : List Text) :
    ofWords (options.map (fun entry =>
          ⟨entry.1.word entry.2, .option entry.1 (.ofValue entry.2)⟩) ++
        ⟨CommandWord.separatorText, .separator⟩ :: operands.map (⟨·, .operand⟩)) =
      options.map (fun entry => .option entry.1 (.ofValue entry.2)) ++
        [.operands (CommandWord.separatorText :: operands)] := by
  induction options with
  | nil => exact consOperand_ofWords _ operands
  | cons entry rest ih =>
    rw [List.map_cons, List.map_cons, List.cons_append, List.cons_append, ← ih]
    -- the next word is an option or the separator
    cases rest with
    | nil => rfl
    | cons next rest => rfl

end CommandArgument

namespace ScanRequest

/-- A request with an option and its value, if it has one. -/
def withOption (request : ScanRequest) (entry : CommandOption × Option Text) :
    Except UsageFault ScanRequest :=
  match entry.2 with
  | none => request.withFlag entry.1
  | some value => request.withValue entry.1 value

/-- The options of a request. -/
def options (request : ScanRequest) : List (CommandOption × Option Text) :=
  (request.rules.map fun path => (.rules, some path.text)).toList ++
    (if request.strict then [(.strictRules, none)] else []) ++
    (request.logLevel.map fun level => (.logLevel, some level)).toList ++
    (request.output.map fun path => (.output, some path.text)).toList ++
    if request.headers then [(.headers, none)] else []

/-- A command line that asks for a request. -/
def commandLine (request : ScanRequest) : List Text :=
  request.options.map (fun entry => entry.1.word entry.2) ++
    CommandWord.separatorText :: request.files.map Path.text

theorem ne_help_of_mem_options {request : ScanRequest} :
    ∀ entry ∈ request.options, entry.1 ≠ .help := by
  obtain ⟨files, rules, strict, logLevel, output, headers⟩ := request
  unfold options
  simp only [List.forall_mem_append]
  refine ⟨⟨⟨⟨?_, ?_⟩, ?_⟩, ?_⟩, ?_⟩
  · cases rules <;> simp
  · cases strict <;> simp
  · cases logLevel <;> simp
  · cases output <;> simp
  · cases headers <;> simp

section

variable {start next last : ScanRequest} {first second : List (CommandOption × Option Text)}

theorem foldlM_append_of_ok (h : first.foldlM withOption start = .ok next)
    (hs : second.foldlM withOption next = .ok last) :
    (first ++ second).foldlM withOption start = .ok last := by
  rw [List.foldlM_append, h]
  exact hs

theorem foldlM_value {α : Type} {option : CommandOption} {text : α → Text} {value : Option α}
    (hn : value = none → next = start)
    (hv : ∀ a, value = some a → start.withValue option (text a) = .ok next) :
    (value.map fun a => (option, some (text a))).toList.foldlM withOption start = .ok next := by
  cases value with
  | none => rw [hn rfl]; rfl
  | some a => exact bind_eq_ok_iff.mpr ⟨next, hv a rfl, rfl⟩

theorem foldlM_flag {option : CommandOption} {flag : Bool} (hn : flag = false → next = start)
    (hv : flag = true → start.withFlag option = .ok next) :
    (if flag then [(option, none)] else []).foldlM withOption start = .ok next := by
  cases flag with
  | false => rw [hn rfl]; rfl
  | true => exact bind_eq_ok_iff.mpr ⟨next, hv rfl, rfl⟩

end

/-- **The options of a request make the request**, but for its files. -/
theorem Proper.foldlM_options {request : ScanRequest} (h : request.Proper) :
    request.options.foldlM withOption {} = .ok { request with files := [] } := by
  obtain ⟨files, rules, strict, level, output, headers⟩ := request
  -- an option that is left out leaves its field as it is at the start
  have hr : (rules.map fun path => (CommandOption.rules, some path.text)).toList.foldlM withOption
      {} = .ok { rules := rules } := by
    refine foldlM_value (fun hn => by rw [hn]) fun path hp => ?_
    rw [ScanRequest.withValue, Path.ofText_text (h.rules path hp), hp]
  have hs : (if strict then [(CommandOption.strictRules, none)] else []).foldlM withOption
      { rules := rules } = .ok { rules := rules, strict := strict } :=
    foldlM_flag (fun hf => by rw [hf]) fun hf => by rw [hf]; rfl
  have hl : (level.map fun level => (CommandOption.logLevel, some level)).toList.foldlM withOption
      { rules := rules, strict := strict } =
        .ok { rules := rules, strict := strict, logLevel := level } := by
    refine foldlM_value (fun hn => by rw [hn]) fun chosen hc => ?_
    rw [ScanRequest.withValue, if_pos (h.logLevel chosen hc), hc]
  have ho : (output.map fun path => (CommandOption.output, some path.text)).toList.foldlM withOption
      { rules := rules, strict := strict, logLevel := level } =
        .ok { rules := rules, strict := strict, logLevel := level, output := output } := by
    refine foldlM_value (fun hn => by rw [hn]) fun path hp => ?_
    rw [ScanRequest.withValue, Path.ofText_text (h.output path hp), hp]
  have hh : (if headers then [(CommandOption.headers, none)] else []).foldlM withOption
      { rules := rules, strict := strict, logLevel := level, output := output } =
        .ok ⟨[], rules, strict, level, output, headers⟩ :=
    foldlM_flag (fun hf => by rw [hf]) fun hf => by rw [hf]; rfl
  exact foldlM_append_of_ok (foldlM_append_of_ok (foldlM_append_of_ok
    (foldlM_append_of_ok hr hs) hl) ho) hh

end ScanRequest

namespace CommandRequest

/-- Options are read one after the other. -/
theorem ofArguments_options {options : List (CommandOption × Option Text)}
    (h : ∀ entry ∈ options, entry.1 ≠ .help) {request next : ScanRequest}
    (hf : options.foldlM ScanRequest.withOption request = .ok next) (unrecognized : List Text)
    (rest : List CommandArgument) :
    ofArguments request unrecognized
        (options.map (fun entry => .option entry.1 (.ofValue entry.2)) ++ rest) =
      ofArguments next unrecognized rest := by
  induction options generalizing request with
  | nil =>
    obtain rfl := Except.ok.inj hf
    rfl
  | cons entry options ih =>
    obtain ⟨option, value⟩ := entry
    rw [List.forall_mem_cons] at h
    obtain ⟨step, hs, hnext⟩ := bind_eq_ok_iff.mp hf
    rw [List.map_cons, List.cons_append]
    cases value with
    | none =>
      have hw : request.withFlag option = .ok step := hs
      rw [AttachedValue.ofValue, ofArguments]
      · rw [hw]
        exact ih h.2 hnext
      · exact h.1
    | some value =>
      have hw : request.withValue option value = .ok step := hs
      rw [AttachedValue.ofValue, ofArguments, hw]
      exact ih h.2 hnext

/-- **The command line for a request asks for it.** -/
theorem ofTexts_commandLine {request : ScanRequest} (h : request.Proper) (hf : request.files ≠ []) :
    ofTexts request.commandLine = .ok (scan request) := by
  have hp : (request.files.map Path.text).map Path.ofText = request.files := by
    rw [List.map_map]
    exact (List.map_congr_left fun path hm => Path.ofText_text (h.files path hm)).trans
      (List.map_id _)
  have hne : (request.files.map Path.text).isEmpty = false := by simpa using hf
  rw [ScanRequest.commandLine, ofTexts, CommandWord.ofTexts_words]
  show ofArguments {} [] (CommandArgument.ofWords _) = _
  rw [CommandArgument.ofWords_words,
    ofArguments_options ScanRequest.ne_help_of_mem_options h.foldlM_options, ofArguments]
  simp only [List.erase_cons_head, hne, List.isEmpty_nil, Bool.not_false, Bool.and_self, if_true,
    hp, ofArguments, conclude]
  rw [if_neg (by simpa using hf)]

/-- **What is asked for by command lines**: the proper requests that have files, and no others. -/
theorem asked_iff (request : ScanRequest) :
    (∃ words, ofTexts words = .ok (scan request)) ↔ request.Proper ∧ request.files ≠ [] := by
  constructor
  · rintro ⟨words, h⟩
    obtain ⟨read, -, h⟩ := bind_eq_ok_iff.mp h
    have he : ScanRequest.Proper {} :=
      ⟨fun _ hm => absurd hm List.not_mem_nil, fun _ he => (nomatch he), fun _ he => (nomatch he),
        fun _ he => (nomatch he)⟩
    exact proper_of_ofArguments he h
  · rintro ⟨hp, hf⟩
    exact ⟨_, ofTexts_commandLine hp hf⟩

end CommandRequest
end MailScreen
