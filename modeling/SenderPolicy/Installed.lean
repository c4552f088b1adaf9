/-
  SenderPolicy.Installed — the packages that the program runs with.

  The rules for public suffixes are those that its runs meet, out of many more. What a parser says that it
  expects is the same for all terms in which it comes to a stop at the same place.
-/

import SenderPolicy.Packages

namespace SenderPolicy

instance : Packages where
  rules := ["!city.kobe.jp", "!www.ck", "*.ck", "*.compute.amazonaws.com", "*.er", "*.kobe.jp", "abc", "cn", "co.uk", "com",
    "com.tr", "de", "github.io", "gov", "gov.uk", "gr", "io", "jp", "net", "org", "s3.amazonaws.com", "tr", "uk",
    "xn--55qx5d.cn", "公司.cn", "台灣"].map Domain.ruleOf
  expected
    | .atStart => [.mechanism, .modifier, .qualifier, .endOfStatement]
    | .behindQualifier => [.mechanism]
    | .behindReading => [.endOfStatement]

example : Domain.base "www.Example.co.uk" = "example.co.uk" := by decide
example : Domain.isPublicSuffix "foo.kobe.jp" = true ∧ Domain.isPublicSuffix "city.kobe.jp" = false := by decide

end SenderPolicy
