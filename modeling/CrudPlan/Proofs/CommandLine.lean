import CrudPlan.CommandLine
import CrudPlan.Proofs.Data.Entries
import CrudPlan.Proofs.Data.Outcome

namespace CrudPlan

namespace ScannedArgs

/-- An argument, and the one after it if it takes that. -/
structure Part where
  arg : String
  taken : Option String := none
deriving DecidableEq

namespace Part

def args (p : Part) : List String := p.arg :: p.taken.toList

def Dashed (p : Part) : Prop := p.arg.toList.head? = some '-'

def AsksHelp (p : Part) : Prop := p.arg = "-h" ∨ p.arg = "--help"

def Names (p : Part) (path : String) : Prop :=
  p.arg = "--schema" ∧ p.taken = some path ∨ p.arg = "--schema=" ++ path

/-- An option that is none of the usage. -/
def Refused (p : Part) : Prop := p.Dashed ∧ ¬ p.AsksHelp ∧ ∀ path, ¬ p.Names path

instance (p : Part) : Decidable p.Dashed := inferInstanceAs (Decidable (_ = _))

instance (p : Part) : Decidable p.AsksHelp := inferInstanceAs (Decidable (_ ∨ _))

end Part

/-- The arguments from left to right, with `--schema` taking the next one whatever it is. -/
def parts : List String → List Part
  | [] => []
  | arg :: rest =>
    if arg = "--schema" then
      match rest with
      | [] => [⟨arg, none⟩]
      | path :: rest => ⟨arg, some path⟩ :: parts rest
    else ⟨arg, none⟩ :: parts rest

/-- The arguments that are no options. -/
def plain (ps : List Part) : List String := (ps.filter (¬ ·.Dashed)).map (·.arg)

/-- The path that is named last, if any is. -/
def LastPath (ps : List Part) : Option String → Prop
  | none => ∀ p ∈ ps, ∀ path, ¬ p.Names path
  | some path => ∃ before p after, ps = before ++ p :: after ∧ p.Names path ∧
      ∀ q ∈ after, ∀ path', ¬ q.Names path'

namespace Part

variable {p : Part} {path : String} {s : ScannedArgs} {f : ScannedArgs → ScannedArgs}

def path? (p : Part) : Option String :=
  if p.arg = "--schema" then p.taken else inlineSchemaPath? p.arg

def refusal (p : Part) : UsageError :=
  if p.arg = "--schema" then .missingSchemaPath else .unknownOption p.arg

/-- What a part adds to the result for those after it. -/
def effect (p : Part) : Except UsageError (ScannedArgs → ScannedArgs) :=
  if p.AsksHelp then .ok fun s => { s with help := true }
  else
    match p.path? with
    | some path => .ok (withSchemaPath path)
    | none =>
      if p.Dashed then .error p.refusal
      else .ok fun s => { s with positionals := p.arg :: s.positionals }

theorem inlineSchemaPath?_eq_some_iff {arg : String} :
    inlineSchemaPath? arg = some path ↔ arg = "--schema=" ++ path := by
  rw [inlineSchemaPath?, Option.ite_none_right_eq_some, List.isPrefixOf_iff_prefix,
    ← String.toList_inj, String.toList_append]
  constructor
  · intro ⟨⟨rest, hrest⟩, hpath⟩
    rw [← hrest, List.drop_left] at hpath
    rw [← Option.some.inj hpath, String.toList_ofList (l := rest), hrest]
  · intro h
    rw [h, List.drop_left, String.ofList_toList]
    exact ⟨List.prefix_append _ _, rfl⟩

theorem path?_eq_some_iff : p.path? = some path ↔ p.Names path := by
  unfold path? Names
  by_cases hschema : p.arg = "--schema"
  · have hinline : p.arg ≠ "--schema=" ++ path := by
      intro h
      have hlength := congrArg (fun s => s.toList.length) (hschema.symm.trans h)
      simp at hlength
    rw [if_pos hschema, or_iff_left hinline, and_iff_right hschema]
  · rw [if_neg hschema, inlineSchemaPath?_eq_some_iff, or_iff_right fun h => hschema h.1]

theorem path?_eq_none_iff : p.path? = none ↔ ∀ path, ¬ p.Names path := by
  simp only [Option.eq_none_iff_forall_ne_some, ne_eq, path?_eq_some_iff]

theorem Names.dashed (h : p.Names path) : p.Dashed := by
  unfold Dashed
  rcases h with ⟨hschema, _⟩ | hinline
  · rw [hschema]
    rfl
  · rw [hinline, String.toList_append]
    rfl

theorem AsksHelp.dashed (h : p.AsksHelp) : p.Dashed := by
  unfold Dashed
  rcases h with h | h
  · rw [h]
    rfl
  · rw [h]
    rfl

theorem AsksHelp.path?_eq_none (h : p.AsksHelp) : p.path? = none := by
  unfold path?
  rcases h with h | h
  · rw [h]
    rfl
  · rw [h]
    rfl

/-- The kinds of parts, with what each adds to the result for those after it. -/
inductive Effect (p : Part) : Except UsageError (ScannedArgs → ScannedArgs) → Prop
  | help (h : p.AsksHelp) : Effect p (.ok fun s => { s with help := true })
  | path {path : String} (h : p.Names path) : Effect p (.ok (withSchemaPath path))
  | refused (h : p.Refused) : Effect p (.error p.refusal)
  | positional (h : ¬ p.Dashed) :
      Effect p (.ok fun s => { s with positionals := p.arg :: s.positionals })

theorem effect_kind (p : Part) : p.Effect p.effect := by
  unfold effect
  by_cases hhelp : p.AsksHelp
  · rw [if_pos hhelp]
    exact .help hhelp
  · rw [if_neg hhelp]
    cases hpath : p.path? with
    | some path => exact .path (path?_eq_some_iff.1 hpath)
    | none =>
      by_cases hdashed : p.Dashed
      · have hrefused : p.Refused := ⟨hdashed, hhelp, path?_eq_none_iff.1 hpath⟩
        simpa only [if_pos hdashed] using Effect.refused hrefused
      · simpa only [if_neg hdashed] using Effect.positional hdashed

theorem effect_eq_error_iff {e : UsageError} :
    p.effect = .error e ↔ p.Refused ∧ e = p.refusal := by
  have hkind := p.effect_kind
  generalize p.effect = x at hkind
  cases hkind with
  | help h => exact iff_of_false (fun he => nomatch he) fun hr => hr.1.2.1 h
  | path h => exact iff_of_false (fun he => nomatch he) fun hr => hr.1.2.2 _ h
  | refused h => rw [Except.error.injEq, and_iff_right h, eq_comm]
  | positional h => exact iff_of_false (fun he => nomatch he) fun hr => h hr.1.1

theorem exists_effect_iff : (∃ f, p.effect = .ok f) ↔ ¬ p.Refused := by
  cases he : p.effect with
  | ok f =>
    apply iff_of_true ⟨f, rfl⟩
    intro h
    cases he.symm.trans (effect_eq_error_iff.2 ⟨h, rfl⟩)
  | error e => exact iff_of_false (fun h => nomatch h) (not_not.2 (effect_eq_error_iff.1 he).1)

/-- Each part changes one thing, and a path gives way to one that comes later. -/
theorem effect_spec (h : p.effect = .ok f) (s : ScannedArgs) :
    ((f s).help = true ↔ p.AsksHelp ∨ s.help = true) ∧
      (f s).schemaPath = s.schemaPath.or p.path? ∧
      (f s).positionals = plain [p] ++ s.positionals := by
  have hkind := p.effect_kind
  rw [h] at hkind
  unfold plain
  cases hkind with
  | help hhelp =>
    simp [hhelp, hhelp.dashed, hhelp.path?_eq_none]
  | path hpath =>
    have hnone : ¬ p.AsksHelp := fun hhelp =>
      nomatch hhelp.path?_eq_none.symm.trans (path?_eq_some_iff.2 hpath)
    simp [withSchemaPath, hnone, hpath.dashed, path?_eq_some_iff.2 hpath]
  | positional hplain =>
    have hnone : p.path? = none := path?_eq_none_iff.2 fun _ h => hplain h.dashed
    simp [hplain, hnone, mt AsksHelp.dashed hplain]

end Part

variable {args : List String} {p : Part} {ps : List Part} {s : ScannedArgs} {e : UsageError}

/-- The result of parts, from the last one to the first. -/
def scan (ps : List Part) : Except UsageError ScannedArgs := do
  let effects ← ps.mapM Part.effect
  return effects.foldr (fun f s => f s) {}

theorem scan_cons_of_ok {f : ScannedArgs → ScannedArgs} (h : p.effect = .ok f) (ps : List Part) :
    scan (p :: ps) = (scan ps).map f := by
  rw [scan, List.mapM_cons, h, scan]
  cases ps.mapM Part.effect with
  | error e => rfl
  | ok fs => rfl

theorem scan_cons_of_error (h : p.effect = .error e) (ps : List Part) :
    scan (p :: ps) = .error e := by
  rw [scan, List.mapM_cons, h]
  rfl

theorem parts_cons {arg : String} (h : arg ≠ "--schema") (rest : List String) :
    parts (arg :: rest) = ⟨arg, none⟩ :: parts rest := by
  cases rest with
  | nil => simp only [parts, if_neg h]
  | cons next rest => simp only [parts, if_neg h]

theorem ofArgs_eq_scan (args : List String) : ofArgs args = scan (parts args) := by
  -- one case for each branch of the scan: its argument is a part that has the effect of the branch
  fun_induction ofArgs args with
  | case1 => rfl
  | case2 arg rest hhelp ih =>
    have hschema : arg ≠ "--schema" := by
      rcases hhelp with rfl | rfl <;> decide
    have heffect : Part.effect ⟨arg, none⟩ = .ok fun s => { s with help := true } := if_pos hhelp
    rw [parts_cons hschema, scan_cons_of_ok heffect, ih]
    rfl
  | case3 => rfl
  | case4 path rest hhelp ih =>
    rw [ih]
    exact (scan_cons_of_ok (p := ⟨"--schema", some path⟩) rfl (parts rest)).symm
  | case5 arg rest hhelp hschema path hpath ih =>
    have heffect : Part.effect ⟨arg, none⟩ = .ok (withSchemaPath path) := by
      simp only [Part.effect, Part.AsksHelp, Part.path?, if_neg hhelp, if_neg hschema, hpath]
    rw [parts_cons hschema, scan_cons_of_ok heffect, ih]
  | case6 arg rest hhelp hschema hpath hdash =>
    have heffect : Part.effect ⟨arg, none⟩ = .error (.unknownOption arg) := by
      simp only [Part.effect, Part.AsksHelp, Part.path?, Part.refusal, Part.Dashed, if_neg hhelp,
        if_neg hschema, hpath, if_pos hdash]
    rw [parts_cons hschema, scan_cons_of_error heffect]
  | case7 arg rest hhelp hschema hpath hdash ih =>
    have hplain : ¬ Part.Dashed ⟨arg, none⟩ := hdash
    have heffect : Part.effect ⟨arg, none⟩ =
        .ok fun s => { s with positionals := arg :: s.positionals } := by
      simp only [Part.effect, Part.AsksHelp, Part.path?, if_neg hhelp, if_neg hschema, hpath,
        if_neg hplain]
    rw [parts_cons hschema, scan_cons_of_ok heffect, ih]
    rfl

/-- A scan reports the first part that is refused. -/
theorem ofArgs_eq_error_iff : ofArgs args = .error e ↔ ∃ before p after,
    parts args = before ++ p :: after ∧ (∀ q ∈ before, ¬ q.Refused) ∧ p.Refused ∧
      e = p.refusal := by
  rw [ofArgs_eq_scan]
  apply (bind_eq_error_iff_left fun _ => ⟨_, rfl⟩).trans
  simp only [mapM_eq_error_iff, Part.exists_effect_iff, Part.effect_eq_error_iff]

theorem exists_ofArgs_iff : (∃ s, ofArgs args = .ok s) ↔ ∀ p ∈ parts args, ¬ p.Refused := by
  rw [ofArgs_eq_scan]
  apply (exists_bind_eq_ok_iff fun _ => ⟨_, rfl⟩).trans
  simp only [exists_mapM_eq_ok_iff, Part.exists_effect_iff]

/-- What parts come to: whether help is asked for, the path named last, and the positionals. -/
structure Sums (ps : List Part) (s : ScannedArgs) : Prop where
  help : s.help = true ↔ ∃ p ∈ ps, p.AsksHelp
  schemaPath : LastPath ps s.schemaPath
  positionals : s.positionals = plain ps

/-- The path named last is the first one from the back. -/
theorem lastPath_iff {o : Option String} :
    LastPath ps o ↔ ps.reverse.findSome? Part.path? = o := by
  cases o with
  | none =>
    simp only [LastPath, List.findSome?_eq_none_iff, List.mem_reverse, Part.path?_eq_none_iff]
  | some path =>
    simp only [LastPath, List.findSome?_eq_some_iff, Part.path?_eq_some_iff, Part.path?_eq_none_iff]
    constructor
    · intro ⟨before, p, after, hps, hp, hafter⟩
      have hreverse : ps.reverse = after.reverse ++ p :: before.reverse := by
        rw [reverse_eq_append_cons_iff, List.reverse_reverse, List.reverse_reverse, hps]
      exact ⟨_, p, _, hreverse, hp, fun q hq => hafter q (List.mem_reverse.1 hq)⟩
    · intro ⟨after, p, before, hps, hp, hafter⟩
      have horder := reverse_eq_append_cons_iff.1 hps
      exact ⟨_, p, _, horder, hp, fun q hq => hafter q (List.mem_reverse.1 hq)⟩

theorem sums_cons {f : ScannedArgs → ScannedArgs} (hf : p.effect = .ok f) (h : Sums ps s) :
    Sums (p :: ps) (f s) := by
  obtain ⟨hhelp, hpath, hplain⟩ := Part.effect_spec hf s
  apply Sums.mk
  · rw [hhelp, h.help]
    simp only [List.mem_cons, exists_eq_or_imp]
  · rw [lastPath_iff, List.reverse_cons, List.findSome?_append, lastPath_iff.1 h.schemaPath, hpath]
    cases s.schemaPath <;> simp
  · rw [hplain, h.positionals, plain, plain, ← List.map_append, ← List.filter_append]
    rfl

theorem sums_of_effects {effects : List (ScannedArgs → ScannedArgs)}
    (h : List.Forall₂ (fun p f => p.effect = .ok f) ps effects) :
    Sums ps (effects.foldr (fun f s => f s) {}) := by
  induction h with
  | nil => exact ⟨by simp, List.forall_mem_nil _, rfl⟩
  | cons hf _ ih => exact sums_cons hf ih

theorem sums_of_ofArgs (h : ofArgs args = .ok s) : Sums (parts args) s := by
  rw [ofArgs_eq_scan] at h
  obtain ⟨effects, heffects, he⟩ := bind_eq_ok_iff.1 h
  cases he
  exact sums_of_effects (mapM_eq_ok_iff.1 heffects)

/-- Help, the last path and the positionals are the same. -/
structure Alike (ps ps' : List Part) : Prop where
  help : (∃ p ∈ ps, p.AsksHelp) ↔ ∃ p ∈ ps', p.AsksHelp
  schemaPath : ∀ o, LastPath ps o ↔ LastPath ps' o
  positionals : plain ps = plain ps'

theorem LastPath.unique {o o' : Option String} (h : LastPath ps o) (h' : LastPath ps o') : o = o' :=
  (lastPath_iff.1 h).symm.trans (lastPath_iff.1 h')

theorem Sums.eq_of_alike {ps' : List Part} {s' : ScannedArgs} (h : Sums ps s) (h' : Sums ps' s')
    (halike : Alike ps ps') : s = s' := by
  have hhelp : s.help = s'.help :=
    Bool.eq_iff_iff.2 (h.help.trans (halike.help.trans h'.help.symm))
  have hpath : s.schemaPath = s'.schemaPath :=
    ((halike.schemaPath _).1 h.schemaPath).unique h'.schemaPath
  have hpositionals : s.positionals = s'.positionals :=
    h.positionals.trans (halike.positionals.trans h'.positionals.symm)
  cases s
  cases s'
  cases hhelp
  cases hpath
  cases hpositionals
  rfl

/-- No argument is lost or moved. -/
theorem flatMap_parts (args : List String) : (parts args).flatMap Part.args = args := by
  fun_induction parts args with
  | case1 => rfl
  | case2 => rfl
  | case3 path rest ih | case4 arg rest hschema ih =>
    rw [List.flatMap_cons, ih]
    rfl

end ScannedArgs

namespace Command

variable {args : List String} {c : Command}

/-- The command that positionals name. -/
inductive Named : List String → Command → Prop
  | default : Named [] .describe
  | describe : Named ["describe"] .describe
  | plan (model request : String) : Named ["plan", model, request] (.plan model request)
  | sql (model request : String) : Named ["sql", model, request] (.sql model request)

theorem withRequest_eq_ok_iff {name : String} {command : String → String → Command} :
    withRequest name command args = .ok c ↔
      ∃ model request, args = [model, request] ∧ command model request = c := by
  match args with
  | [] => simp [withRequest]
  | [_] => simp [withRequest]
  | [_, _] => simp [withRequest]
  | _ :: _ :: _ :: _ => simp [withRequest]

theorem ofPositionals_eq_ok_iff : ofPositionals args = .ok c ↔ Named args c := by
  constructor
  · intro h
    cases args with
    | nil =>
      cases h
      exact .default
    | cons name args =>
      unfold ofPositionals at h
      dsimp only at h
      by_cases hdescribe : name = "describe"
      · rw [if_pos hdescribe] at h
        cases args with
        | nil =>
          cases h
          rw [hdescribe]
          exact .describe
        | cons extra _ => cases h
      · rw [if_neg hdescribe] at h
        by_cases hplan : name = "plan"
        · rw [if_pos hplan] at h
          obtain ⟨model, request, rfl, rfl⟩ := withRequest_eq_ok_iff.1 h
          rw [hplan]
          exact .plan model request
        · rw [if_neg hplan] at h
          by_cases hsql : name = "sql"
          · rw [if_pos hsql] at h
            obtain ⟨model, request, rfl, rfl⟩ := withRequest_eq_ok_iff.1 h
            rw [hsql]
            exact .sql model request
          · rw [if_neg hsql] at h
            cases h
  · intro h
    cases h <;> rfl

end Command

namespace CommandLine

open ScannedArgs

variable {args : List String} {s : ScannedArgs} {c : CommandLine}

theorem parse_of_error {e : UsageError} (h : ofArgs args = .error e) : parse args = .error e := by
  rw [parse, h]
  rfl

theorem parse_of_help (h : ofArgs args = .ok s) (hhelp : s.help = true) :
    parse args = .ok ⟨.help, s.schemaPath⟩ := by
  obtain ⟨help, schemaPath, positionals⟩ := s
  cases hhelp
  rw [parse, h]
  rfl

theorem parse_of_not_help (h : ofArgs args = .ok s) (hhelp : s.help = false) :
    parse args = (Command.ofPositionals s.positionals).map (⟨·, s.schemaPath⟩) := by
  obtain ⟨help, schemaPath, positionals⟩ := s
  cases hhelp
  rw [parse, h]
  rfl

theorem parse_eq_ok_iff_of_ofArgs (h : ofArgs args = .ok s) : parse args = .ok c ↔
    s.schemaPath = c.schemaPath ∧
      if s.help then c.command = .help else Command.Named s.positionals c.command := by
  obtain ⟨command, schemaPath⟩ := c
  cases hhelp : s.help with
  | true =>
    rw [parse_of_help h hhelp, if_pos rfl, Except.ok.injEq, mk.injEq, and_comm]
    exact and_congr_right fun _ => eq_comm
  | false =>
    rw [parse_of_not_help h hhelp, map_eq_ok_iff, if_neg Bool.false_ne_true,
      ← Command.ofPositionals_eq_ok_iff]
    simp only [mk.injEq]
    constructor
    · intro ⟨named, hnamed, hcommand, hpath⟩
      exact ⟨hpath, hcommand ▸ hnamed⟩
    · intro ⟨hpath, hnamed⟩
      exact ⟨command, hnamed, rfl, hpath⟩

theorem parse_eq_ok_iff : parse args = .ok c ↔ (∀ p ∈ parts args, ¬ p.Refused) ∧
    LastPath (parts args) c.schemaPath ∧
      if ∃ p ∈ parts args, p.AsksHelp then c.command = .help
      else Command.Named (plain (parts args)) c.command := by
  rw [← exists_ofArgs_iff]
  cases hscan : ofArgs args with
  | error e =>
    rw [parse_of_error hscan]
    exact iff_of_false (fun h => nomatch h) fun h => nomatch h.1
  | ok s =>
    have hs := sums_of_ofArgs hscan
    have hpath : s.schemaPath = c.schemaPath ↔ LastPath (parts args) c.schemaPath :=
      ⟨fun h => h ▸ hs.schemaPath, fun h => hs.schemaPath.unique h⟩
    have hhelp : s.help = true ↔ ∃ p ∈ parts args, p.AsksHelp := hs.help
    have hexists : ∃ s', (.ok s : Except UsageError ScannedArgs) = .ok s' := ⟨s, rfl⟩
    rw [parse_eq_ok_iff_of_ofArgs hscan, hpath, hs.positionals, and_iff_right hexists]
    simp only [hhelp]

theorem exists_error_iff : (∃ e, ofArgs args = .error e) ↔ ∃ p ∈ parts args, p.Refused := by
  constructor
  · intro ⟨e, he⟩
    obtain ⟨before, p, after, hparts, _, hp, _⟩ := ofArgs_eq_error_iff.1 he
    rw [hparts]
    exact ⟨p, List.mem_append_right before List.mem_cons_self, hp⟩
  · intro ⟨p, hp, hrefused⟩
    cases hscan : ofArgs args with
    | error e => exact ⟨e, rfl⟩
    | ok s => exact absurd hrefused (exists_ofArgs_iff.1 ⟨s, hscan⟩ p hp)

theorem parse_eq_of_alike {args' : List String} (h : ∀ p ∈ parts args, ¬ p.Refused)
    (h' : ∀ p ∈ parts args', ¬ p.Refused) (halike : Alike (parts args) (parts args')) :
    parse args = parse args' := by
  obtain ⟨s, hs⟩ := exists_ofArgs_iff.2 h
  obtain ⟨s', hs'⟩ := exists_ofArgs_iff.2 h'
  have hsame : s = s' := (sums_of_ofArgs hs).eq_of_alike (sums_of_ofArgs hs') halike
  rw [parse, parse, hs, hs', hsame]

/-- The scan fails exactly at an option that is not of the usage. Otherwise the path named last
counts, and the command is help if that is asked for anywhere, or else the one that the positionals
name; how options and positionals are mixed makes no difference. -/
theorem parse_exact (args : List String) :
    (parts args).flatMap Part.args = args ∧
    ((∃ e, ofArgs args = .error e) ↔ ∃ p ∈ parts args, p.Refused) ∧
    (∀ e, ofArgs args = .error e → parse args = .error e) ∧
    (∀ c, parse args = .ok c ↔ (∀ p ∈ parts args, ¬ p.Refused) ∧
      LastPath (parts args) c.schemaPath ∧
        if ∃ p ∈ parts args, p.AsksHelp then c.command = .help
        else Command.Named (plain (parts args)) c.command) ∧
    ∀ args', (∀ p ∈ parts args, ¬ p.Refused) → (∀ p ∈ parts args', ¬ p.Refused) →
      Alike (parts args) (parts args') → parse args = parse args' := by
  apply And.intro (flatMap_parts args)
  apply And.intro exists_error_iff
  apply And.intro fun e he => parse_of_error he
  apply And.intro fun c => parse_eq_ok_iff
  intro args' h h' halike
  exact parse_eq_of_alike h h' halike

def mixed : List String :=
  ["--schema", "--help", "sql", "--schema=a=b.json", "users", "request.json"]

def unmixed : List String := ["sql", "users", "request.json", "--schema", "a=b.json"]

/-- The first path looks like an option, and the one that counts has another `=`. -/
theorem parse_exact_mixed :
    parse mixed = .ok ⟨.sql "users" "request.json", some "a=b.json"⟩ ∧
    parse mixed = parse unmixed ∧ ∃ e, ofArgs (mixed ++ ["--schema"]) = .error e := by
  have hmixed := exists_ofArgs_iff.1 ⟨_, (rfl : ofArgs mixed = .ok _)⟩
  have hunmixed := exists_ofArgs_iff.1 ⟨_, (rfl : ofArgs unmixed = .ok _)⟩
  have halike : Alike (parts mixed) (parts unmixed) := by
    apply Alike.mk
    · decide
    · intro o
      rw [lastPath_iff, lastPath_iff]
      rfl
    · decide
  have hnamed : Command.Named (plain (parts mixed)) (.sql "users" "request.json") := .sql _ _
  have hrefused : Part.Refused ⟨"--schema", none⟩ := by
    apply And.intro (by decide)
    apply And.intro (by decide)
    intro path
    exact Part.path?_eq_none_iff.1 rfl path
  obtain ⟨_, herror, _, hok, hsame⟩ := parse_exact mixed
  apply And.intro ((hok _).2 ⟨hmixed, lastPath_iff.2 rfl, ?_⟩)
  · apply And.intro (hsame unmixed hmixed hunmixed halike)
    exact (parse_exact (mixed ++ ["--schema"])).2.1.2 ⟨_, by decide, hrefused⟩
  · rw [if_neg (by decide)]
    exact hnamed

end CommandLine

end CrudPlan
