import Rollup.Output.JsonLines

namespace Rollup

namespace Json

theorem exists_furtherMembers (members : List (String × Json)) :
    ∃ stem, ∀ others, furtherMembers (members ++ others) = stem ++ furtherMembers others := by
  induction members with
  | nil => exact ⟨[], fun others => rfl⟩
  | cons member members ih =>
      obtain ⟨stem, happend⟩ := ih
      refine ⟨"," :: memberPieces member ++ stem, ?_⟩
      intro others
      rw [List.cons_append, furtherMembers, happend, List.append_assoc]

end Json

namespace JsonLines

/-- What a line gains by a discussion. -/
def discussionText (comments : List Comment) : String :=
  ",\"discussion\":" ++ (Json.array (comments.map ofComment)).render

/-- A record, and the same one with its discussion if it is a changeset. Then the line of the latter
is the line of the former with the discussion put in before the last brace. -/
inductive Discussed : Record → Record → Prop where
  | element (shared : Element) (body : Body) (tags : Tags) :
    Discussed (.element shared body tags) (.element shared body tags)
  | changeset (shared : Changeset) (tags : Tags) (comments : List Comment) (now : Instant)
    (stem : String)
    (hwithout : line (.changeset shared tags false comments now) = stem ++ "\x7d\n")
    (hwith : line (.changeset shared tags true comments now) =
      stem ++ discussionText comments ++ "\x7d\n") :
    Discussed (.changeset shared tags false comments now)
      (.changeset shared tags true comments now)

theorem join_furtherMembers_discussion (comments : List Comment) :
    String.join (Json.furtherMembers [("discussion", .array (comments.map ofComment))]) =
      discussionText comments ++ "\x7d" := by
  have hname : String.join (Json.quotedPieces "discussion") = "\"discussion\"" := by decide +kernel
  rw [Json.furtherMembers, Json.memberPieces, Json.furtherMembers, String.join_append,
    String.join_cons, String.join_append, String.join_cons, hname, discussionText, Json.render,
    String.join_cons, String.join_nil, String.append_empty]
  rfl

theorem discussed (changeset : Changeset) (tags : Tags) (comments : List Comment) (now : Instant) :
    Discussed (.changeset changeset tags false comments now)
      (.changeset changeset tags true comments now) := by
  let shared := changesetMembers changeset ++
    [("open", .bool (changeset.isOpenAt now)), ("tags", ofTags tags)]
  let opening := "\x7b" :: Json.memberPieces ("type", .string "changeset")
  obtain ⟨pieces, hpieces⟩ := Json.exists_furtherMembers shared
  have hline : ∀ withDiscussion,
      line (.changeset changeset tags withDiscussion comments now) =
        String.join (opening ++ pieces) ++ String.join (Json.furtherMembers
          (if withDiscussion then [("discussion", .array (comments.map ofComment))] else [])) ++
          "\n" := by
    intro withDiscussion
    have hlinePieces : linePieces (.changeset changeset tags withDiscussion comments now) =
        opening ++ Json.furtherMembers (shared ++
          if withDiscussion then [("discussion", .array (comments.map ofComment))] else []) ++
          ["\n"] := by
      cases withDiscussion <;> rfl
    rw [line, hlinePieces, hpieces, ← List.append_assoc, String.join_append, String.join_append]
    rfl
  refine .changeset changeset tags comments now (String.join (opening ++ pieces)) ?_ ?_
  · rw [hline, String.append_assoc]
    rfl
  · rw [hline, if_pos rfl, join_furtherMembers_discussion, ← String.append_assoc,
      String.append_assoc]
    rfl

end JsonLines

end Rollup
