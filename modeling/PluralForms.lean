import PluralForms.Recognizer.System
import PluralForms.Selection
import PluralForms.Proofs.Judgement.Chaining
import PluralForms.Proofs.Judgement.Count
import PluralForms.Proofs.Judgement.Fused
import PluralForms.Proofs.Judgement.Manners
import PluralForms.Proofs.Spelling.Faulty
import PluralForms.Proofs.Reader.Recording
import PluralForms.Proofs.Spelling.Course
import PluralForms.Proofs.Spelling.GivingUp
import PluralForms.Proofs.Judgement.Depth
import PluralForms.Proofs.Judgement.Fault
import PluralForms.Proofs.Judgement.Longest
import PluralForms.Proofs.Judgement.Evaluation
import PluralForms.Proofs.Judgement.Cutting
import PluralForms.Proofs.Judgement.Reuse
import PluralForms.Proofs.Selection.Decisive
import PluralForms.Proofs.Selection.NonFinite
import PluralForms.Proofs.Selection.Warned
import PluralForms.Proofs.Judgement.Interchange
import PluralForms.Proofs.Judgement.Periodic
import PluralForms.Proofs.Judgement.Respaced
import PluralForms.Proofs.Recognizer.Running
import PluralForms.Proofs.Recognizer.Verbatim
import PluralForms.Proofs.Recognizer.Repetition
import PluralForms.Proofs.Recognizer.Guarded
import PluralForms.Proofs.Recognizer.Bare
import PluralForms.Proofs.Recognizer.Caching
import PluralForms.Proofs.Judgement.Linear
import PluralForms.Proofs.Judgement.Traced
import PluralForms.Proofs.Report.Decoded
import PluralForms.Proofs.Report.Shortened
import PluralForms.Proofs.Text.LineColumn
import PluralForms.Proofs.Nesting
import PluralForms.Proofs.Judgement.Listed
