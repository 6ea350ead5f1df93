import RtmpRecv.Client.Aac
import RtmpRecv.Client.Acceptance
import RtmpRecv.Client.AnnexB
import RtmpRecv.Client.Delimiter
import RtmpRecv.Client.Connect
import RtmpRecv.Client.Extended
import RtmpRecv.Client.FlvTags
import RtmpRecv.Client.Inside
import RtmpRecv.Client.Lengths
import RtmpRecv.Client.Order
import RtmpRecv.Client.Running
import RtmpRecv.Client.Progress
import RtmpRecv.Client.Properties
import RtmpRecv.Client.Recording
import RtmpRecv.Client.Rejection
import RtmpRecv.Client.Remaining
import RtmpRecv.Client.Replies
import RtmpRecv.Client.Requests
import RtmpRecv.Client.Rewriting
import RtmpRecv.Client.Rounds
import RtmpRecv.Client.Separate
import RtmpRecv.Client.Similar
import RtmpRecv.Client.Split
import RtmpRecv.Client.Stamps
import RtmpRecv.Client.StreamId
import RtmpRecv.Client.Units
import RtmpRecv.Client.Unset
import RtmpRecv.Client.UrlStrings
import RtmpRecv.Client.Windows
import RtmpRecv.Tots.AudioTimes
import RtmpRecv.Tots.Checksum
import RtmpRecv.Tots.Closing
import RtmpRecv.Tots.Rejected
