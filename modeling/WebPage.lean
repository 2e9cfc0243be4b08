import WebPage.Proofs.Document.Dispatch
import WebPage.Proofs.Page.Structure
import WebPage.Verb.Element
import WebPage.Verb.Interaction
import WebPage.Verb.Structure
import WebPage.Proofs.Tree.Roots
import WebPage.Proofs.Form.Checkedness
import WebPage.Proofs.Document.Activation
import WebPage.Proofs.Document.Once
import WebPage.Proofs.Selector.Printing
import WebPage.Proofs.Page.Resolution
import WebPage.Proofs.Page.Controls
import WebPage.Proofs.Tree.Serialization
import WebPage.Proofs.Document.Focus
import WebPage.Proofs.Page.Failures
import WebPage.Proofs.Tree.Copying
import WebPage.Proofs.Document.Detached
import WebPage.Proofs.Selector.Meaning
import WebPage.Proofs.Tree.Splicing
import WebPage.Proofs.Tree.Bounds
import WebPage.Proofs.Page.Classes
import WebPage.Proofs.Tree.Walks
import WebPage.Proofs.Page.Removal
import WebPage.Proofs.Form.Values
import WebPage.Proofs.Document.Clicking
import WebPage.Proofs.Document.FocusAnswers
import WebPage.Proofs.Page.Visibility
import WebPage.Proofs.Page.Reapplying
import WebPage.Proofs.Page.Toggling
import WebPage.Proofs.Page.Histories
import WebPage.Proofs.Document.Identifiers
import WebPage.Proofs.Selector.Continuation
import WebPage.Proofs.Style.Inline
import WebPage.Proofs.Tree.Texts
import WebPage.Proofs.Style.PropertyName
import WebPage.Proofs.Attributes.Histories
import WebPage.Proofs.Event.Registry
import WebPage.Proofs.Selector.Scanning
