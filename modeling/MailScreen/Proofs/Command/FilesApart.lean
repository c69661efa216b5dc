import MailScreen.Proofs.Command.CommandLine
import MailScreen.Proofs.Command.Outcomes

/-!
# Runs over several files

A run over several files is as many runs over one file each, reported together. **Each path has one
entry, which is what a run for this path alone reports of it** (`runCommand_tellsFilesApart`): which
other files there are, whether they can be read and in which order they come makes no difference to
it, and neither does how often the path is named. The exit status is 1 exactly if one of the files
comes to a failure.

It rests on paths: entries go by their spellings, and the paths of a request that is read from a
command line are in normal form, so that no two of them are spelled alike.
-/
namespace MailScreen

/-- A request for one file that is otherwise the same. -/
def ScanRequest.only (request : ScanRequest) (path : Path) : ScanRequest :=
  { request with files := [path] }

/-- **A run of a request in which each file is dealt with on its own**, with what it reports of the
files and of the rules that were refused. -/
structure ScanRequest.TellsFilesApart (request : ScanRequest) (settings : Settings)
    (files : FileAccess) (outlook : Option OutlookReader) (scanner : Scanner)
    (results : Table ScanOutcome) (ruleErrors : List FailureReport) : Prop where
  /-- There is an entry for each path, in the order in which the paths first come. -/
  names : results.names = request.files.eraseDups.map Path.text
  /-- No path has two entries. -/
  nodup : results.names.Nodup
  /-- The run returns if its report can be written. -/
  returns : (request.headers = true ∨
      ∀ path, request.output = some path → files.writeFault path = none) →
    ∃ outcome, request.report settings files results ruleErrors = .ok outcome
  /-- Its exit status is 1 if a file comes to a failure, and otherwise 0. -/
  status : ∀ outcome, request.report settings files results ruleErrors = .ok outcome →
    (outcome.status = 1 ↔ ∃ path ∈ request.files, ∃ found,
      results.find? path.text = some found ∧ found.succeeded = false) ∧
    (outcome.status = 0 ↔ ∀ path ∈ request.files, ∃ found,
      results.find? path.text = some found ∧ found.succeeded = true)
  /-- A path can be asked for alone, and then its entry is all that is reported of files. -/
  alone : ∀ path ∈ request.files, ∃ found, results.find? path.text = some found ∧
    (∃ words, CommandRequest.ofTexts words = .ok (.scan (request.only path))) ∧
    ∀ words, CommandRequest.ofTexts words = .ok (.scan (request.only path)) →
      (runCommand settings files outlook words).result =
        (request.only path).report settings files [(path.text, found)] ruleErrors
  /-- A file that cannot be read has an entry that says so. -/
  unread : ∀ path ∈ request.files, ∀ fault, files.read path = .error fault →
    results.find? path.text = some (Scanner.internalFailure fault.message path)
  /-- So has a file whose scan ends in a fault. -/
  raised : ∀ path ∈ request.files, ∀ data fault, files.read path = .ok data →
    (scanner.scan settings data (some path.name)).result = .error fault →
    results.find? path.text = some (Scanner.internalFailure fault.message.toList path)

namespace Scanner

variable {paths : List Path} {path : Path}

/-! ## Entries -/

/-- The entries go by paths, in the order in which these first come. -/
theorem names_outcomes (scanner : Scanner) (settings : Settings) (files : FileAccess)
    (hn : ∀ path ∈ paths, path.Normal) :
    (Table.ofList (scanner.outcomes settings files paths)).names =
      paths.eraseDups.map Path.text := by
  rw [Table.names_ofList, outcomes, List.map_map]
  exact eraseDups_map fun path hp other ho => Path.eq_of_text_eq (hn path hp) (hn other ho)

/-- The entry of a path is what its file comes to. -/
theorem find?_outcomes (scanner : Scanner) (settings : Settings) (files : FileAccess)
    (hn : ∀ path ∈ paths, path.Normal) (hp : path ∈ paths) :
    (Table.ofList (scanner.outcomes settings files paths)).find? path.text =
      some (scanner.outcomeOf settings files path) := by
  have hm : (path.text, scanner.outcomeOf settings files path) ∈
      scanner.outcomes settings files paths := List.mem_map_of_mem hp
  refine Table.find?_ofList_of_mem hm ?_
  rintro entry he ht
  obtain ⟨other, ho, rfl⟩ := List.mem_map.mp he
  rw [Path.eq_of_text_eq (hn other ho) (hn path hp) ht]

/-- There are no other entries. -/
theorem exists_of_mem_outcomes {scanner : Scanner} {settings : Settings} {files : FileAccess}
    {entry : Text × ScanOutcome}
    (h : entry ∈ Table.ofList (scanner.outcomes settings files paths)) :
    ∃ path ∈ paths, (path.text, scanner.outcomeOf settings files path) = entry :=
  List.mem_map.mp (Table.mem_of_mem_ofList h)

end Scanner

namespace ScanRequest

variable {request : ScanRequest} {settings : Settings} {files : FileAccess}
  {results : Table ScanOutcome} {ruleErrors : List FailureReport}

/-! ## Reports -/

theorem exitStatus_eq_zero_iff :
    exitStatus results = 0 ↔ ∀ entry ∈ results, entry.2.succeeded = true := by
  unfold exitStatus
  split
  · rename_i h
    exact iff_of_true rfl (List.all_eq_true.mp h)
  · rename_i h
    exact iff_of_false Nat.one_ne_zero fun ha => h (List.all_eq_true.mpr ha)

theorem exitStatus_eq_one_iff :
    exitStatus results = 1 ↔ ∃ entry ∈ results, entry.2.succeeded = false := by
  have hn : exitStatus results = 1 ↔ ¬ exitStatus results = 0 := by
    unfold exitStatus
    split <;> simp
  rw [hn, exitStatus_eq_zero_iff]
  simp

/-- The exit status says whether the entry of a file is a failure. -/
theorem exitStatus_outcomes_iff (scanner : Scanner) (settings : Settings) (files : FileAccess)
    {paths : List Path} (hn : ∀ path ∈ paths, path.Normal) :
    (exitStatus (Table.ofList (scanner.outcomes settings files paths)) = 1 ↔
      ∃ path ∈ paths, ∃ found,
        (Table.ofList (scanner.outcomes settings files paths)).find? path.text = some found ∧
          found.succeeded = false) ∧
    (exitStatus (Table.ofList (scanner.outcomes settings files paths)) = 0 ↔
      ∀ path ∈ paths, ∃ found,
        (Table.ofList (scanner.outcomes settings files paths)).find? path.text = some found ∧
          found.succeeded = true) := by
  have hf {path : Path} (hp : path ∈ paths) := Scanner.find?_outcomes scanner settings files hn hp
  rw [exitStatus_eq_one_iff, exitStatus_eq_zero_iff]
  constructor
  · constructor
    · rintro ⟨entry, he, ho⟩
      obtain ⟨path, hp, rfl⟩ := Scanner.exists_of_mem_outcomes he
      exact ⟨path, hp, _, hf hp, ho⟩
    · rintro ⟨path, hp, found, he, ho⟩
      exact ⟨_, Table.mem_of_find? he, ho⟩
  · constructor
    · intro hall path hp
      exact ⟨_, hf hp, hall _ (Table.mem_of_find? (hf hp))⟩
    · intro hall entry he
      obtain ⟨path, hp, rfl⟩ := Scanner.exists_of_mem_outcomes he
      obtain ⟨found, he, ho⟩ := hall path hp
      obtain rfl := Option.some.inj ((hf hp).symm.trans he)
      exact ho

/-- However it is made, a report has the exit status of what it reports. -/
theorem status_of_report {outcome : RunOutcome}
    (h : request.report settings files results ruleErrors = .ok outcome) :
    outcome.status = exitStatus results := by
  unfold report at h
  simp only at h
  split at h
  · obtain rfl := Except.ok.inj h
    rfl
  · split at h
    · obtain rfl := Except.ok.inj h
      rfl
    · split at h
      · cases h
      · obtain rfl := Except.ok.inj h
        rfl

/-- A report is made if there is no file to write it to that cannot be written. -/
theorem exists_report (h : request.headers = true ∨
      ∀ path, request.output = some path → files.writeFault path = none) :
    ∃ outcome, request.report settings files results ruleErrors = .ok outcome := by
  unfold report
  simp only
  split
  · exact ⟨_, rfl⟩
  · rename_i hh
    split
    · exact ⟨_, rfl⟩
    · rename_i path ho
      rw [h.resolve_left hh path ho]
      exact ⟨_, rfl⟩

/-- A proper request may be cut down to one of its files. -/
theorem Proper.only (h : request.Proper) {path : Path} (hp : path ∈ request.files) :
    (request.only path).Proper :=
  { h with files := List.forall_mem_singleton.mpr (h.files path hp) }

/-- **What is reported of a proper request tells its files apart.** -/
theorem Proper.tellsFilesApart (h : request.Proper) {set : RuleSet}
    (hl : (request.loadRules settings files).result = .ok set) (outlook : Option OutlookReader) :
    request.TellsFilesApart settings files outlook (Scanner.ofRules set outlook)
      (Table.ofList ((Scanner.ofRules set outlook).outcomes settings files request.files))
      ((Scanner.ofRules set outlook).rules.rejections.map request.rejectionReport) := by
  have hf {path : Path} (hp : path ∈ request.files) :=
    Scanner.find?_outcomes (Scanner.ofRules set outlook) settings files h.files hp
  refine ⟨Scanner.names_outcomes _ settings files h.files, ?_, exists_report, ?_, ?_, ?_, ?_⟩
  · rw [Table.names_ofList]
    exact nodup_eraseDups _
  · intro outcome hr
    rw [status_of_report hr]
    exact exitStatus_outcomes_iff (Scanner.ofRules set outlook) settings files h.files
  · intro path hp
    refine ⟨_, hf hp, ?_, ?_⟩
    · exact (CommandRequest.asked_iff _).mpr ⟨h.only hp, List.cons_ne_nil path []⟩
    · intro words hw
      rw [runCommand, hw]
      -- the request for one path loads the same rules, and its table has one entry
      exact run_eq_report outlook hl
  · intro path hp fault hr
    rw [hf hp, Scanner.outcomeOf_of_unread hr]
  · intro path hp data fault hd hr
    rw [hf hp, Scanner.outcomeOf_of_raised hd hr]

end ScanRequest

/-- **Runs deal with each file on its own.** A command line that asks for a scan, with rules that
are loaded, comes to a report in which each of its paths has one entry, the one that it has in a run
for this path alone; a file that cannot be read or whose scan ends in a fault changes no other
entry; and the exit status is 1 exactly if a file comes to a failure. -/
theorem runCommand_tellsFilesApart {settings : Settings} {files : FileAccess} {words : List Text}
    {request : ScanRequest} {set : RuleSet} (outlook : Option OutlookReader)
    (hw : CommandRequest.ofTexts words = .ok (.scan request))
    (hl : (request.loadRules settings files).result = .ok set) :
    ∃ results ruleErrors, (runCommand settings files outlook words).result =
        request.report settings files results ruleErrors ∧
      request.TellsFilesApart settings files outlook (Scanner.ofRules set outlook) results
        ruleErrors := by
  obtain ⟨hp, -⟩ := (CommandRequest.asked_iff request).mp ⟨words, hw⟩
  refine ⟨_, _, ?_, hp.tellsFilesApart hl outlook⟩
  rw [runCommand, hw]
  exact ScanRequest.run_eq_report outlook hl

/-- A file that is named twice and spelled differently, and between the two one that is missing. -/
theorem runCommand_tellsFilesApart_of_missingFile :
    ∃ files words request set results ruleErrors outcome,
      CommandRequest.ofTexts words = .ok (.scan request) ∧
      request.files.map Path.text = ["a.eml", "b.eml", "a.eml"].map String.toList ∧
      (request.loadRules {} files).result = .ok set ∧
      (runCommand {} files none words).result = request.report {} files results ruleErrors ∧
      request.report {} files results ruleErrors = .ok outcome ∧ outcome.status = 1 ∧
      results.names = ["a.eml", "b.eml"].map String.toList := by
  let files := FileTree.access ⟨[
    (["rules.cf".toList], Utf8.encode "attachment EXE ext == exe".toList),
    (["a.eml".toList], Utf8.encode "Subject: x\n\ntext\n".toList)]⟩
  let words := ["a.eml", "b.eml", "./a.eml", "--rules=rules.cf", "--headers"].map String.toList
  let request : ScanRequest :=
    { files := [⟨[], ["a.eml".toList]⟩, ⟨[], ["b.eml".toList]⟩, ⟨[], ["a.eml".toList]⟩]
      rules := some ⟨[], ["rules.cf".toList]⟩
      headers := true }
  let set : RuleSet :=
    { attachmentRules := [("EXE".toList, ⟨"EXE".toList,
        [⟨.extension, .equal, .literal "exe".toList, "ext == exe".toList⟩]⟩)] }
  have hw : CommandRequest.ofTexts words = .ok (.scan request) := by decide +kernel
  have hl : (request.loadRules {} files).result = .ok set := by decide +kernel
  obtain ⟨results, ruleErrors, hr, hrun⟩ := runCommand_tellsFilesApart none hw hl
  obtain ⟨outcome, ho⟩ := hrun.returns (.inl rfl)
  have hm : (⟨[], ["b.eml".toList]⟩ : Path) ∈ request.files := by decide +kernel
  have hb : files.read ⟨[], ["b.eml".toList]⟩ = .error ⟨.missing, ⟨[], ["b.eml".toList]⟩⟩ := by
    decide +kernel
  have hs : outcome.status = 1 :=
    (hrun.status outcome ho).1.mpr ⟨_, hm, _, hrun.unread _ hm _ hb, rfl⟩
  have hn : results.names = ["a.eml", "b.eml"].map String.toList := by
    rw [hrun.names]
    decide +kernel
  have ht : request.files.map Path.text = ["a.eml", "b.eml", "a.eml"].map String.toList := by
    decide +kernel
  exact ⟨files, words, request, set, results, ruleErrors, outcome, hw, ht, hl, hr, ho, hs, hn⟩

end MailScreen
