import Mathlib.Logic.Relation
import StreamMux.Proofs.Config.Meaning

/-!
# Edits that do not matter

Settings are read line by line, each line on top of those before it. So an edit of a text changes
nothing where it leaves the lines to tell what they told: blank lines and comments that are added,
blanks at the ends of a line and around its equals sign, and lines for different settings in another
order (`Grammar.Edited`, `Config.parse_line_by_line`).
-/

namespace StreamMux

namespace Grammar

/-- The line is blank, or has nothing but a comment. -/
inductive Silent : List Char → Prop where
  | blank {line : List Char} (blanks : ∀ c ∈ line, Blank c) : Silent line
  | comment {pad comment : List Char} (blanks : ∀ c ∈ pad, Blank c) : Silent (pad ++ '#' :: comment)

/-- The line is written in another way: with more blanks in front, behind, or around its first
equals sign where that is before any comment, or with a comment more. -/
inductive Respelled : List Char → List Char → Prop where
  | front {pad line : List Char} (blanks : ∀ c ∈ pad, Blank c) : Respelled line (pad ++ line)
  | behind {line pad : List Char} (blanks : ∀ c ∈ pad, Blank c) : Respelled line (line ++ pad)
  | around {left right before after : List Char} (first : '=' ∉ left) (plain : '#' ∉ left)
    (blanks : ∀ c ∈ before, Blank c) (blanks' : ∀ c ∈ after, Blank c) :
    Respelled (left ++ '=' :: right) (left ++ before ++ '=' :: (after ++ right))
  | commented (line comment : List Char) : Respelled line (line ++ '#' :: comment)

/-- The line can be read on its own, and assigns to the key. -/
structure ValidFor (key line : List Char) : Prop where
  valid : ∃ config, Config.parse line = .ok config
  told : ∃ value, Tells line (.assignment key value)

inductive Edited (text text' : List Char) : Prop where
  | inserted {before after : List (List Char)} {line : List Char} (silent : Silent line)
    (old : Lines text (before ++ after)) (new : Lines text' (before ++ line :: after))
  | respelled {before after : List (List Char)} {line line' : List Char}
    (same : Respelled line line') (old : Lines text (before ++ line :: after))
    (new : Lines text' (before ++ line' :: after))
  | swapped {before after : List (List Char)} {first second key key' : List Char}
    (one : ValidFor key first) (other : ValidFor key' second) (apart : key ≠ key')
    (old : Lines text (before ++ first :: second :: after))
    (new : Lines text' (before ++ second :: first :: after))

variable {text text' line line' left right pad pad' core kept : List Char}
  {lines : List (List Char)} {start : Config}

/-- More blanks at the ends are stripped too. -/
theorem Stripped.padded (stripped : Stripped text core) (blanks : ∀ c ∈ pad, Blank c)
    (blanks' : ∀ c ∈ pad', Blank c) : Stripped (pad ++ text ++ pad') core := by
  obtain ⟨⟨before, after, rfl, front, back⟩, first, last⟩ := stripped
  refine ⟨⟨pad ++ before, after ++ pad', by simp, ?_, ?_⟩, first, last⟩
  · exact List.forall_mem_append.2 ⟨blanks, front⟩
  · exact List.forall_mem_append.2 ⟨back, blanks'⟩

theorem trim_padded (text : List Char) (blanks : ∀ c ∈ pad, Blank c)
    (blanks' : ∀ c ∈ pad', Blank c) :
    ConfigLine.trim (pad ++ text ++ pad') = ConfigLine.trim text :=
  stripped_iff.1 ((stripped_iff.2 rfl).padded blanks blanks')

theorem trim_front (text : List Char) (blanks : ∀ c ∈ pad, Blank c) :
    ConfigLine.trim (pad ++ text) = ConfigLine.trim text := by
  simpa using trim_padded text blanks (List.forall_mem_nil _)

theorem trim_behind (text : List Char) (blanks : ∀ c ∈ pad, Blank c) :
    ConfigLine.trim (text ++ pad) = ConfigLine.trim text :=
  trim_padded text (List.forall_mem_nil _) blanks

theorem not_mem_of_blanks {mark : Char} (blanks : ∀ c ∈ pad, Blank c) (ink : ¬Blank mark) :
    mark ∉ pad := fun member => ink (blanks mark member)

theorem not_blank_hash : ¬Blank '#' := by
  rw [← blank_iff]
  decide

/-- A comment counts for nothing. -/
theorem takeWhile_commented (line comment : List Char) :
    (line ++ '#' :: comment).takeWhile (· != '#') = line.takeWhile (· != '#') := by
  by_cases commented : '#' ∈ line
  · obtain ⟨kept, rest, rfl, plain⟩ := List.eq_append_cons_of_mem commented
    rw [List.append_assoc, List.cons_append, takeWhile_mark plain, takeWhile_mark plain]
  · rw [takeWhile_mark commented, List.takeWhile_eq_self_iff.2 (ne_mark commented)]

theorem takeWhile_front (line : List Char) (plain : '#' ∉ left) :
    (left ++ line).takeWhile (· != '#') = left ++ line.takeWhile (· != '#') :=
  List.takeWhile_append_of_pos (ne_mark plain)

/-- What is behind a line counts if it has no comment. -/
theorem takeWhile_behind (line : List Char) (plain : '#' ∉ right) :
    (line ++ right).takeWhile (· != '#') = line.takeWhile (· != '#') ∨
      (line ++ right).takeWhile (· != '#') = line.takeWhile (· != '#') ++ right := by
  by_cases commented : '#' ∈ line
  · obtain ⟨kept, rest, rfl, plain⟩ := List.eq_append_cons_of_mem commented
    left
    rw [List.append_assoc, List.cons_append, takeWhile_mark plain, takeWhile_mark plain]
  · right
    rw [takeWhile_front right commented, List.takeWhile_eq_self_iff.2 (ne_mark commented),
      List.takeWhile_eq_self_iff.2 (ne_mark plain)]

/-- Lines with the same content are read alike. -/
theorem read_congr (same : ConfigLine.trim (line'.takeWhile (· != '#')) =
    ConfigLine.trim (line.takeWhile (· != '#'))) :
    ConfigLine.read line' = ConfigLine.read line := by
  rw [ConfigLine.read, ConfigLine.read, same]

theorem read_silent (silent : Silent line) : ConfigLine.read line = .blank := by
  have blank {pad : List Char} (blanks : ∀ c ∈ pad, Blank c) : ConfigLine.trim pad = [] := by
    have bare : ConfigLine.trim (pad ++ []) = [] := trim_front [] blanks
    rwa [List.append_nil] at bare
  cases silent with
  | blank blanks =>
    have plain := not_mem_of_blanks blanks not_blank_hash
    rw [ConfigLine.read, List.takeWhile_eq_self_iff.2 (ne_mark plain), blank blanks]
    rfl
  | comment blanks =>
    have plain := not_mem_of_blanks blanks not_blank_hash
    rw [ConfigLine.read, takeWhile_mark plain, blank blanks]
    rfl

/-- Trimming stops at an equals sign from both sides. -/
theorem trim_divided (left right : List Char) :
    ConfigLine.trim (left ++ '=' :: right) =
      left.dropWhile ConfigLine.isBlank ++ '=' :: right.rdropWhile ConfigLine.isBlank := by
  have stops (front rest : List Char) : (front ++ '=' :: rest).dropWhile ConfigLine.isBlank =
      front.dropWhile ConfigLine.isBlank ++ '=' :: rest := by
    rw [List.dropWhile_append]
    split
    · rename_i empty
      rw [List.isEmpty_iff.1 empty]
      rfl
    · rfl
  rw [ConfigLine.trim, stops, List.reverse_append, List.reverse_cons, List.append_assoc,
    List.singleton_append, stops]
  simp [List.rdropWhile]

theorem trim_dropWhile (text : List Char) :
    ConfigLine.trim (text.dropWhile ConfigLine.isBlank) = ConfigLine.trim text := by
  have blanks : ∀ c ∈ text.takeWhile ConfigLine.isBlank, Blank c :=
    fun c member => blank_iff.1 (List.mem_takeWhile_imp member)
  rw [← trim_front _ blanks, List.takeWhile_append_dropWhile]

theorem trim_rdropWhile (text : List Char) :
    ConfigLine.trim (text.rdropWhile ConfigLine.isBlank) = ConfigLine.trim text := by
  have blanks : ∀ c ∈ text.rtakeWhile ConfigLine.isBlank, Blank c :=
    fun c member => blank_iff.1 (List.mem_rtakeWhile_imp member)
  have whole : text.rdropWhile ConfigLine.isBlank ++ text.rtakeWhile ConfigLine.isBlank = text := by
    rw [List.rdropWhile, List.rtakeWhile, ← List.reverse_append, List.takeWhile_append_dropWhile,
      List.reverse_reverse]
  rw [← trim_behind _ blanks, whole]

/-- A line that has an equals sign before any comment is divided there. -/
theorem read_divided (first : '=' ∉ left) (plain : '#' ∉ left) (right : List Char) :
    ConfigLine.read (left ++ '=' :: right) =
      let key := ConfigLine.trim left
      let value := ConfigLine.trim (right.takeWhile (· != '#'))
      if key.isEmpty || value.isEmpty then .malformed else .assignment key value := by
  have kept : (left ++ '=' :: right).takeWhile (· != '#') =
      left ++ '=' :: right.takeWhile (· != '#') := by
    rw [takeWhile_front _ plain, List.takeWhile_cons_of_pos (by decide)]
  have undivided : '=' ∉ left.dropWhile ConfigLine.isBlank :=
    fun member => first ((List.dropWhile_sublist _).mem member)
  rw [ConfigLine.read, kept, trim_divided]
  dsimp only
  rw [dropWhile_mark undivided, takeWhile_mark undivided, trim_dropWhile]
  dsimp only
  rw [trim_rdropWhile, if_neg (by simp)]

/-- A line that is respelled tells the same. -/
theorem read_respelled (same : Respelled line line') :
    ConfigLine.read line' = ConfigLine.read line := by
  cases same with
  | front blanks =>
    apply read_congr
    rw [takeWhile_front _ (not_mem_of_blanks blanks not_blank_hash), trim_front _ blanks]
  | behind blanks =>
    apply read_congr
    rcases takeWhile_behind line (not_mem_of_blanks blanks not_blank_hash) with cut | whole
    · rw [cut]
    · rw [whole, trim_behind _ blanks]
  | @around left right before after first plain blanks blanks' =>
    have equals : ¬Blank '=' := by
      rw [← blank_iff]
      decide
    have first' : '=' ∉ left ++ before := by
      rw [List.mem_append]
      exact not_or.2 ⟨first, not_mem_of_blanks blanks equals⟩
    have plain' : '#' ∉ left ++ before := by
      rw [List.mem_append]
      exact not_or.2 ⟨plain, not_mem_of_blanks blanks not_blank_hash⟩
    rw [read_divided first' plain', read_divided first plain, trim_behind _ blanks,
      takeWhile_front _ (not_mem_of_blanks blanks' not_blank_hash), trim_front _ blanks']
  | commented line comment =>
    apply read_congr
    rw [takeWhile_commented]

theorem readLines_of_lines (told : Lines text lines) (start : Config) :
    start.readLines text = lines.foldlM Config.readLine start := by
  rw [Config.readLines, lines_iff.1 told]

theorem Lines.oneLine (told : Lines text lines) (member : line ∈ lines) : '\n' ∉ line := by
  induction told with
  | last whole =>
    rw [List.mem_singleton.1 member]
    exact whole
  | more whole following ih =>
    rcases List.mem_cons.1 member with rfl | later
    · exact whole
    · exact ih later

/-- A line that is valid on its own assigns a value to the setting of its key. -/
theorem ValidFor.assigns {key : List Char} (valid : ValidFor key line) (one : '\n' ∉ line) :
    ∃ (setting : Setting) (value : setting.Value),
      setting.key.toList = key ∧ Assigns line setting value := by
  obtain ⟨⟨config, parsed⟩, text, told⟩ := valid
  have read : Config.defaults.readLine line = .ok config := by
    rw [Config.parse, readLines_of_lines (.last one), List.foldlM_cons] at parsed
    cases read : Config.defaults.readLine line with
    | error error =>
      rw [read] at parsed
      cases parsed
    | ok next =>
      rw [read] at parsed
      exact parsed
  rw [Config.readLine, tells_iff.1 told] at read
  dsimp only at read
  split at read
  · cases read
  · rename_i setting named
    split at read
    · cases read
    · rename_i next assigned
      obtain ⟨value, writes, -⟩ := assign_eq_some_iff.1 assigned
      obtain rfl := Setting.ofKey?_eq_some_iff.1 named
      exact ⟨setting, value, rfl, text, told, writes⟩

end Grammar

namespace Config

/-- Different settings may be set in either order. -/
theorem put_comm {setting other : Setting} (apart : setting ≠ other) (config : Config)
    (value : setting.Value) (value' : other.Value) :
    (config.put setting value).put other value' = (config.put other value').put setting value := by
  refine ext_get fun another => ?_
  by_cases here : another = setting
  · subst here
    rw [get_put_of_ne apart, get_put_self, get_put_self]
  · by_cases there : another = other
    · subst there
      rw [get_put_self, get_put_of_ne here, get_put_self]
    · rw [get_put_of_ne there, get_put_of_ne here, get_put_of_ne here, get_put_of_ne there]

open Grammar

variable {text text' : List Char}

/-- An edit changes neither the settings nor the error. -/
theorem readLines_of_edited (edited : Edited text text') (start : Config) :
    start.readLines text' = start.readLines text := by
  cases edited with
  | inserted silent old new =>
    rw [readLines_of_lines old, readLines_of_lines new, List.foldlM_append, List.foldlM_append]
    refine bind_congr fun config => ?_
    rw [List.foldlM_cons, readLine_blank (read_silent silent)]
    rfl
  | respelled same old new =>
    rw [readLines_of_lines old, readLines_of_lines new, List.foldlM_append, List.foldlM_append]
    refine bind_congr fun config => ?_
    rw [List.foldlM_cons, List.foldlM_cons, readLine, readLine, read_respelled same]
  | swapped one other apart old new =>
    obtain ⟨setting, value, rfl, assigns⟩ := one.assigns (old.oneLine (by simp))
    obtain ⟨setting', value', rfl, assigns'⟩ := other.assigns (old.oneLine (by simp))
    have different : setting ≠ setting' := fun same => apart (by rw [same])
    rw [readLines_of_lines old, readLines_of_lines new, List.foldlM_append, List.foldlM_append]
    refine bind_congr fun config => ?_
    simp only [List.foldlM_cons, readLine_of_assigns assigns, readLine_of_assigns assigns']
    exact congrArg (List.foldlM readLine · _) (put_comm different.symm config value' value)

/-- A text in front of another decides the error, or else the settings on top of which the lines of
the other are read. Edits that add blank lines, comments or blanks, or swap lines for different
settings, change neither the settings nor the error, one or many of them and in either direction. -/
theorem parse_line_by_line :
    (∀ a b, (∀ error, parse a = .error error → parse (a ++ '\n' :: b) = .error error) ∧
      ∀ config, parse a = .ok config → parse (a ++ '\n' :: b) = config.readLines b) ∧
    ∀ text text', Relation.EqvGen Edited text text' → parse text' = parse text := by
  refine ⟨fun a b => ⟨fun error failed => ?_, fun config read => ?_⟩, fun text text' edits => ?_⟩
  · rw [parse_append_newline, failed]
    rfl
  · rw [parse_append_newline, read]
    rfl
  · induction edits with
    | rel text text' edited => exact readLines_of_edited edited defaults
    | refl text => rfl
    | symm text text' edits ih => exact ih.symm
    | trans text middle text' edits edits' ih ih' => exact ih'.trans ih

/-- The equals sign of the first line is set apart, the lines are swapped, and a comment that looks
like a line is put between them. -/
theorem parse_line_by_line_threeEdits :
    Relation.EqvGen Edited "initial_window_size=9\nmax_concurrent_streams = 7".toList
        "max_concurrent_streams = 7\n# echo_events = on\ninitial_window_size \t= 9".toList ∧
      parse "initial_window_size=9\nmax_concurrent_streams = 7".toList =
        .ok { initialWindowSize := 9, maxConcurrentStreams := 7 } ∧
      parse "max_concurrent_streams = 7\n# echo_events = on\ninitial_window_size \t= 9".toList =
        .ok { initialWindowSize := 9, maxConcurrentStreams := 7 } := by
  let window := "initial_window_size".toList
  let streams := "max_concurrent_streams".toList
  let wide := window ++ " \t= 9".toList
  let limit := streams ++ " = 7".toList
  have apart : Edited (window ++ "=9\n".toList ++ limit) (wide ++ '\n' :: limit) := by
    have same : Respelled (window ++ '=' :: ['9'])
        (window ++ [' ', '\t'] ++ '=' :: ([' '] ++ ['9'])) :=
      .around (by decide) (by decide) (by simp [Blank]) (by simp [Blank])
    have old : Grammar.Lines (window ++ "=9\n".toList ++ limit)
        ([] ++ (window ++ '=' :: ['9']) :: [limit]) := lines_iff.2 (by decide)
    exact .respelled same old (lines_iff.2 (by decide))
  have swapped : Edited (wide ++ '\n' :: limit) (limit ++ '\n' :: wide) := by
    have one : ValidFor window wide := ⟨⟨_, rfl⟩, _, tells_iff.2 rfl⟩
    have other : ValidFor streams limit := ⟨⟨_, rfl⟩, _, tells_iff.2 rfl⟩
    have old : Grammar.Lines (wide ++ '\n' :: limit) ([] ++ wide :: limit :: []) :=
      lines_iff.2 (by decide)
    exact .swapped one other (by decide) old (lines_iff.2 (by decide))
  have remarked : Edited (limit ++ '\n' :: wide)
      (limit ++ "\n# echo_events = on\n".toList ++ wide) := by
    have silent : Silent ([] ++ '#' :: " echo_events = on".toList) :=
      .comment (List.forall_mem_nil _)
    have old : Grammar.Lines (limit ++ '\n' :: wide) ([limit] ++ [wide]) := lines_iff.2 (by decide)
    exact .inserted silent old (lines_iff.2 (by decide))
  have edits := ((Relation.EqvGen.rel _ _ apart).trans _ _ _ (.rel _ _ swapped)).trans _ _ _
    (.rel _ _ remarked)
  have read : parse (window ++ "=9\n".toList ++ limit) =
      .ok { initialWindowSize := 9, maxConcurrentStreams := 7 } := by decide
  have written : "initial_window_size=9\nmax_concurrent_streams = 7".toList =
      window ++ "=9\n".toList ++ limit := by decide
  have rewritten :
      "max_concurrent_streams = 7\n# echo_events = on\ninitial_window_size \t= 9".toList =
        limit ++ "\n# echo_events = on\n".toList ++ wide := by decide
  rw [written, rewritten]
  exact ⟨edits, read, (parse_line_by_line.2 _ _ edits).trans read⟩

end Config

end StreamMux
