import ModuleScope.Main
import ModuleScope.Proofs.Discovery.Admission
import ModuleScope.Proofs.Discovery.Independence
import ModuleScope.Proofs.Discovery.Rounds
import ModuleScope.Proofs.Discovery.Verdict
import ModuleScope.Proofs.Elf.Entries
import ModuleScope.Proofs.Elf.Resolution
import ModuleScope.Proofs.Elf.Spelling
import ModuleScope.Proofs.Elf.Termination
import ModuleScope.Proofs.Filter.Acceptance
import ModuleScope.Proofs.Filter.Agreement
import ModuleScope.Proofs.Filter.Copying
import ModuleScope.Proofs.Filter.Defaults
import ModuleScope.Proofs.Filter.Display
import ModuleScope.Proofs.Filter.Platform
import ModuleScope.Proofs.Filter.Readings
import ModuleScope.Proofs.Filter.RegexRule
import ModuleScope.Proofs.Filter.RuleShape
import ModuleScope.Proofs.Filter.Starless
import ModuleScope.Proofs.Filter.WildcardRule
import ModuleScope.Proofs.Loader.Expansion
import ModuleScope.Proofs.Loader.Settings
import ModuleScope.Proofs.Pattern.Wildcard
import ModuleScope.Proofs.Program.Merging
import ModuleScope.Proofs.Program.Verdicts
import ModuleScope.Proofs.Scope.TextLine
