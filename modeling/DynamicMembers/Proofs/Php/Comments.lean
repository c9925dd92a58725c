import DynamicMembers.Php.Lowering
import DynamicMembers.Proofs.Php.Places
/-!
# Comments — what a comment in the code changes

Statements, clauses, members, arguments and elements are read without the comments among them.  A comment right behind
`return` or an opening parenthesis is read in place of the expression, and one inside a name, a scope or a class
constant is kept as part of it.  A comment that is put in between tokens changes the statements exactly when it changes
one of these (`statements_insert_iff`).
-/
namespace DynamicMembers
namespace Php

/-- **A comment between tokens leaves the statements the same exactly when it leaves the marks the same.** -/
theorem statements_insert_iff {before text after : String} (hplace : BetweenTokens before after)
    (htext : CommentAt before text after) :
    statements (before ++ text ++ after) = statements (before ++ after) ↔
      marksIn (program (before ++ text ++ after)) = marksIn (program (before ++ after)) := by
  have hlower := marksIn_eq_iff (alike_program (sameCode_insert hplace htext))
  exact eq_comm.trans (hlower.symm.trans eq_comm)

theorem passesOver_tag (b : List Char) : PassesOver Gap.outside "<?php".toList b := ⟨false, fun _ => ⟨rfl, rfl⟩⟩

theorem passesOver_blank (b : List Char) : PassesOver Gap.inCode [' '] b := ⟨false, fun _ => ⟨rfl, rfl⟩⟩

theorem commentAt_block {before after : String} : CommentAt before " /* c */" after where
  parts := by
    have hcomment : IsComment ([] ++ after.toList) "/* c */".toList := @IsComment.block _ [' ', 'c', ' '] (by decide)
    exact ⟨[' '], "/* c */".toList, [], rfl, by simp; decide, by simp, hcomment⟩
  apart _ := by decide

/-- A comment among the elements of an array changes nothing. -/
theorem statements_insert_iff_array :
    BetweenTokens "<?php [1," " $x];" ∧ CommentAt "<?php [1," " /* c */" " $x];" ∧
      (statements ("<?php [1," ++ " /* c */" ++ " $x];") = statements ("<?php [1," ++ " $x];") ↔
        marksIn (program ("<?php [1," ++ " /* c */" ++ " $x];")) = marksIn (program ("<?php [1," ++ " $x];"))) ∧
      statements ("<?php [1," ++ " /* c */" ++ " $x];") = [.expression (.array [.int 1, .var "x"])] := by
  have hplace : BetweenTokens "<?php [1," " $x];" := by
    refine ⟨⟨"<?php".toList, " [1,".toList, rfl, passesOver_tag _, ?_⟩, by decide⟩
    refine .gap (p := [' ']) (passesOver_blank _) (.token (t := []) rfl rfl ?_)
    exact .token (t := []) rfl rfl (.token (t := []) rfl rfl .here)
  exact ⟨hplace, commentAt_block, statements_insert_iff hplace commentAt_block, rfl⟩

/-- A comment right behind `return` hides what is returned. -/
theorem comment_hides_returned :
    BetweenTokens "<?php return" " $x;" ∧ CommentAt "<?php return" " /* c */" " $x;" ∧
      statements ("<?php return" ++ " $x;") = [.ret (some (.var "x"))] ∧
      statements ("<?php return" ++ " /* c */" ++ " $x;") = [.ret (some .other)] := by
  have hplace : BetweenTokens "<?php return" " $x;" := by
    refine ⟨⟨"<?php".toList, " return".toList, rfl, passesOver_tag _, ?_⟩, by decide⟩
    exact .gap (p := [' ']) (passesOver_blank _) (.token (t := "eturn".toList) rfl rfl .here)
  exact ⟨hplace, commentAt_block, rfl, rfl⟩

end Php
end DynamicMembers
