import OrderDesk.Console.Site

-- What a command leaves at its site besides orders and entries: it may begin a table and a log, and no other
-- file appears or goes. Whoever looks for settings or opens a table finds what was found before, unless a begun
-- file lies there.
namespace OrderDesk

-- The log that is kept in a file.
def Monitoring.logs (m : Monitoring) : List String := if m.structured then (Recorder.asked m.logFile).toList else []

namespace Recorder

theorem begun_names (path name : String) (files : List (String × List Entry)) :
    name ∈ (begun path files).map (·.1) ↔ name ∈ files.map (·.1) ∨ name = path := by
  unfold begun
  split
  · rename_i there
    refine ⟨Or.inl,?_⟩
    rintro (old | rfl)
    · exact old
    · obtain ⟨file,member,own⟩ := List.any_eq_true.mp there
      exact List.mem_map.mpr ⟨file,member,beq_iff_eq.mp own⟩
  · simp

theorem appended_names (path : String) (entries : List Entry) (files : List (String × List Entry)) :
    (appended path entries files).map (·.1) = files.map (·.1) := by
  induction files with
  | nil => rfl
  | cons file rest ih =>
    obtain ⟨name,old⟩ := file
    rw [appended]
    split
    · rfl
    · simp [ih]

theorem record_names (r : Recorder) (entries : List Entry) : (r.record entries).files.map (·.1) = r.files.map (·.1) := by
  unfold record
  split
  · exact appended_names _ _ _
  · rfl

end Recorder

namespace Site

-- Nothing at the site is other than before, except that some paths may be taken now.
structure Grows (s after : Site) (made : List String) : Prop where
  files : after.files = s.files
  folders : after.folders = s.folders
  environment : after.environment = s.environment
  old : ∀ p ∈ s.paths, p ∈ after.paths
  new : ∀ p ∈ after.paths, p ∈ s.paths ∨ p ∈ made

section
variable {s middle after : Site} {made : List String} {path : String}

theorem setRows_names (path name : String) (rows : List Row) (tables : List (String × List Row)) :
    name ∈ (setRows path rows tables).map (·.1) ↔ name ∈ tables.map (·.1) ∨ name = path := by
  induction tables with
  | nil => simp [setRows]
  | cons table rest ih =>
    obtain ⟨own,old⟩ := table
    rw [setRows]
    split
    · rename_i same
      rw [beq_iff_eq.mp same,List.map_cons,List.map_cons,List.mem_cons]
      exact ⟨Or.inl,fun either => either.elim id Or.inl⟩
    · rw [List.map_cons,List.map_cons,List.mem_cons,List.mem_cons,ih,or_assoc]

theorem setUpLog_paths (s : Site) (m : Monitoring) (p : String) : p ∈ (s.setUpLog m).paths ↔ p ∈ s.paths ∨ p ∈ m.logs := by
  unfold paths setUpLog Monitoring.logs
  cases m.structured with
  | false => simp
  | true =>
    unfold Recorder.setUp
    cases Recorder.asked m.logFile with
    | none => simp
    | some log =>
      simp only [if_true,List.mem_append,Recorder.begun_names,Option.toList_some,List.mem_singleton,or_assoc]

theorem close_paths (s : Site) (path : String) (d : Desk) {rows : List Row} (table : d.storage.store = .table rows) (p : String) :
    p ∈ (s.close (.kept path) d).paths ↔ p ∈ s.paths ∨ p = path := by
  unfold paths close keep
  rw [table]
  simp only [List.mem_append,setRows_names,Recorder.record_names]
  grind

namespace Grows

theorem timed (s : Site) (now : Timestamp) (made : List String) : s.Grows {s with clock := now} made :=
  ⟨rfl,rfl,rfl,fun _ taken => taken,fun _ taken => Or.inl taken⟩

theorem trans (first : s.Grows middle made) (second : middle.Grows after made) : s.Grows after made := by
  refine ⟨second.files.trans first.files,second.folders.trans first.folders,second.environment.trans first.environment,?_,?_⟩
  · exact fun p taken => second.old p (first.old p taken)
  · exact fun p taken => (second.new p taken).elim (first.new p) Or.inr

theorem setUp (s : Site) (m : Monitoring) (logs : ∀ log ∈ m.logs, log ∈ made) : s.Grows (s.setUpLog m) made := by
  refine ⟨rfl,rfl,rfl,?_,?_⟩
  · exact fun p taken => (setUpLog_paths s m p).mpr (Or.inl taken)
  · exact fun p taken => ((setUpLog_paths s m p).mp taken).imp_right (logs p)

theorem closing (s : Site) (d : Desk) {rows : List Row} (table : d.storage.store = .table rows) (own : path ∈ made) :
    s.Grows (s.close (.kept path) d) made := by
  have same : (s.close (.kept path) d).files = s.files ∧ (s.close (.kept path) d).folders = s.folders ∧
      (s.close (.kept path) d).environment = s.environment := by
    unfold close keep
    rw [table]
    exact ⟨rfl,rfl,rfl⟩
  refine ⟨same.1,same.2.1,same.2.2,?_,?_⟩
  · exact fun p taken => (close_paths s path d table p).mpr (Or.inl taken)
  · exact fun p taken => ((close_paths s path d table p).mp taken).imp_right fun (same : p = path) => same ▸ own

theorem folder (grows : s.Grows after made) (q : String) (there : s.isFolder q = true) : after.isFolder q = true := by
  simp only [isFolder,Bool.or_eq_true,List.any_eq_true,grows.folders] at there ⊢
  exact there.imp_right fun ⟨p,taken,inside⟩ => ⟨p,grows.old p taken,inside⟩

theorem folder_same (grows : s.Grows after made) {q : String} (apart : ∀ p ∈ made, Path.isInside q p = false) :
    after.isFolder q = s.isFolder q := by
  rw [Bool.eq_iff_iff]
  refine ⟨?_,grows.folder q⟩
  intro there
  simp only [isFolder,Bool.or_eq_true,List.any_eq_true,grows.folders] at there ⊢
  refine there.imp_right ?_
  rintro ⟨p,taken,inside⟩
  rcases grows.new p taken with before | begun
  · exact ⟨p,before,inside⟩
  · rw [apart p begun] at inside
    cases inside

theorem find_same (grows : s.Grows after made) {q : String} (apart : ∀ p ∈ made, Path.isInside q p = false) :
    after.find q = s.find q := by
  rw [find,find,grows.files,grows.folder_same apart]

end Grows
end
end Site
end OrderDesk
