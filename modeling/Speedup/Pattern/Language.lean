/-!
# Languages of patterns

What a pattern looks like, and in which names it occurs, is left to a language: a text is compiled
to a test of names, or it is told what is wrong with it. Nothing else is asked of a language.
-/

namespace Speedup

structure PatternLanguage where
  /-- Whether a name has the pattern in it that a text describes, or what is wrong with the text. -/
  compile : String → Except String (String → Bool)

def PatternLanguage.Compiles (l : PatternLanguage) (text : String) : Prop :=
  ∃ test, l.compile text = .ok test

end Speedup
