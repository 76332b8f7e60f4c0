import SchemaWire.Text.Quoted

/-! Lines that are written one behind the other are told apart again at the newlines. -/
namespace SchemaWire.Text

def OneLine (s : String) : Prop := '\n' ∉ s.toList

@[simp] theorem oneLine_append {a b : String} : OneLine (a ++ b) ↔ OneLine a ∧ OneLine b := by
  simp [OneLine]

theorem oneLine_ofList {cs : List Char} (inside : '\n' ∉ cs) : OneLine (String.ofList cs) := by
  rwa [OneLine, String.toList_ofList]

theorem toList_unlines (lines : List String) :
    (unlines lines).toList = lines.flatMap (·.toList ++ ['\n']) := by
  have behind (text : String) : (lines.foldl (fun text line => text ++ line ++ "\n") text).toList =
      text.toList ++ lines.flatMap (·.toList ++ ['\n']) := by
    induction lines generalizing text with
    | nil => simp
    | cons line rest ih => simp [ih]
  exact behind ""

theorem unlines_append (before after : List String) :
    unlines (before ++ after) = unlines before ++ unlines after := by
  rw [← String.toList_inj, String.toList_append]
  simp only [toList_unlines, List.flatMap_append]

theorem unlines_flatten (blocks : List (List String)) :
    unlines blocks.flatten = String.join (blocks.map unlines) := by
  induction blocks with
  | nil => rfl
  | cons block rest ih =>
      rw [List.flatten_cons, unlines_append, ih, List.map_cons, String.join_cons]

theorem splitOn_unlines {lines : List String} (each : ∀ line ∈ lines, OneLine line) :
    (unlines lines).toList.splitOn '\n' = lines.map String.toList ++ [[]] := by
  rw [toList_unlines]
  induction lines with
  | nil => rfl
  | cons line rest ih =>
      have others := ih fun l member => each l (List.mem_cons_of_mem line member)
      rw [List.flatMap_cons, List.append_assoc, List.singleton_append,
        List.splitOn_append_cons_self_of_not_mem (each line (List.mem_cons_self ..)), others]
      rfl

theorem oneLine_of_mem_linesAfter {line text : List Char} (inside : '\n' ∉ line) :
    ∀ l ∈ linesAfter line text, OneLine l := by
  fun_induction linesAfter line text with
  | case1 line empty => exact List.forall_mem_nil _
  | case2 line some => simpa [OneLine] using inside
  | case3 line rest ended ih =>
      have kept : '\n' ∉ ended := by
        unfold ended
        split
        · exact fun member => inside (List.mem_cons_of_mem _ member)
        · exact inside
      rw [List.forall_mem_cons]
      exact ⟨oneLine_ofList (by simpa using kept), ih List.not_mem_nil⟩
  | case4 line c rest other ih =>
      apply ih
      rw [List.mem_cons, not_or]
      exact ⟨fun same => other same.symm, inside⟩

theorem oneLine_of_mem_lines {text line : String} (member : line ∈ lines text) : OneLine line :=
  oneLine_of_mem_linesAfter List.not_mem_nil line member

end SchemaWire.Text
